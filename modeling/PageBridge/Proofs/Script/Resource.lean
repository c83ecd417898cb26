import Mathlib.Data.List.Basic
import PageBridge.Proofs.File.Disk
import PageBridge.Proofs.Script.Store

/-!
# Resources and the resource root

A path is that of a resource if its normal form starts with `:/`, and there are two ways to write such
a path (`toList_normalizePath_iff`).  What follows the mark is read as a path from the resource root, and
`Climbs` tells from its text whether it is refused.  All others are plain paths, so they lead to a file
under the root, and what else is in the file system does not matter.
-/

namespace PageBridge.Script

open PageBridge.Text
open PageBridge.File (Disk)
open PageBridge.File.Path (Component ofText)

/-! ## Normal forms -/

/-- The slashes in front of a text that starts with none are all dropped. -/
theorem dropWhile_replicate_append {rest : List Char} (h : rest.head? ≠ some '/') (n : ℕ) :
    (List.replicate n '/' ++ rest).dropWhile (· == '/') = rest := by
  rw [List.dropWhile_append_of_pos fun c hc => by simp [List.eq_of_mem_replicate hc]]
  cases rest with
  | nil => rfl
  | cons c rest => exact List.dropWhile_cons_of_neg fun e => h (congrArg some (eq_of_beq e))

/-- A text is made of the slashes that are dropped and a rest that starts with none. -/
theorem exists_replicate_append (cs : List Char) :
    (cs.dropWhile (· == '/')).head? ≠ some '/' ∧
      ∃ n, cs = List.replicate n '/' ++ cs.dropWhile (· == '/') := by
  refine ⟨fun hhead => ?_, (cs.takeWhile (· == '/')).length, ?_⟩
  · simpa [hhead] using List.head?_dropWhile_not (· == '/') cs
  · have hslashes : ∀ c ∈ cs.takeWhile (· == '/'), c = '/' := fun c hc =>
      eq_of_beq (List.mem_takeWhile_imp (p := (· == '/')) hc)
    rw [← List.eq_replicate_of_mem hslashes, List.takeWhile_append_dropWhile]

/-- A path names the resource `rest` when it is written with the mark of a resource, or with `qrc:` and
any number of slashes. -/
theorem toList_normalizePath_iff (path : String) (rest : List Char) :
    (normalizePath path).toList = resourceMark ++ rest ↔
      (trim path).toList = resourceMark ++ rest ∨
        rest.head? ≠ some '/' ∧
          ∃ n, (trim path).toList = ['q', 'r', 'c', ':'] ++ (List.replicate n '/' ++ rest) := by
  rw [normalizePath]
  generalize trim path = text
  cases hdrop : dropStart? ['q', 'r', 'c', ':'] text.toList with
  | none =>
      have hnone : ∀ after, text.toList ≠ ['q', 'r', 'c', ':'] ++ after := fun after e => by
        rw [e, dropStart?_append] at hdrop
        cases hdrop
      exact ⟨.inl, fun h => h.resolve_right fun ⟨_, n, e⟩ => hnone _ e⟩
  | some after =>
      rw [eq_append_of_dropStart? hdrop]
      simp only [String.toList_ofList]
      constructor
      · intro h
        -- the slashes that were dropped are all those in front of `rest`
        obtain ⟨hhead, n, hafter⟩ := exists_replicate_append after
        rw [List.append_cancel_left h] at hhead hafter
        exact .inr ⟨hhead, n, by rw [← hafter]⟩
      · rintro (h | ⟨hhead, n, h⟩)
        · exact absurd (List.cons.inj h).1 (by decide)
        · rw [List.append_cancel_left h, dropWhile_replicate_append hhead]

/-! ## Paths that are refused -/

/-- The path of a resource is refused if it is absolute, starts at the place itself or goes up
somewhere. -/
def Climbs (rest : List Char) : Prop :=
  rest.head? = some '/' ∨ (splitOn (· == '/') rest).head? = some ['.'] ∨
    ['.', '.'] ∈ splitOn (· == '/') rest

instance : DecidablePred Climbs := fun _ => inferInstanceAs (Decidable (_ ∨ _ ∨ _))

/-- Whether a path is refused is seen from its text. -/
theorem isPlain_ofText_iff (rest : List Char) :
    (ofText (String.ofList rest)).isPlain = true ↔ ¬ Climbs rest := by
  -- a part may be compared as a text or by its bytes, as no two texts have the same bytes
  have hinj : Function.Injective fun part => ofText (String.ofList part) := fun _ _ =>
    File.Path.ofText_ofList_inj
  have hhere : (ofText (String.ofList rest)).parts.head? = some [File.Path.point] ↔
      (splitOn (· == '/') rest).head? = some ['.'] := by
    have hpoint : ofText (String.ofList ['.']) = [File.Path.point] := by
      rw [File.Path.ofText_ofList]
      decide
    rw [File.Path.parts_ofText, List.head?_map, ← hpoint]
    exact (Option.map_injective hinj).eq_iff' rfl
  have hup : [File.Path.point, File.Path.point] ∈ (ofText (String.ofList rest)).parts ↔
      ['.', '.'] ∈ splitOn (· == '/') rest := by
    have hpoints : ofText (String.ofList ['.', '.']) = [File.Path.point, File.Path.point] := by
      rw [File.Path.ofText_ofList]
      decide
    rw [File.Path.parts_ofText, ← hpoints]
    exact List.mem_map_of_injective hinj
  rw [File.Path.isPlain_iff, Climbs, ← File.Path.isAbsolute_ofText_iff, ← hhere, ← hup]
  simp only [not_or, Bool.not_eq_true]

/-! ## Where resources are read -/

namespace Store

variable {store : Store} {path : String} {rest : List Char}

/-- What is read of a file depends on nothing but what lies at its path. -/
theorem read_congr {disk disk' : Disk} {p : File.Path} (h : disk.find p = disk'.find p) :
    read disk p = read disk' p := by
  rw [read, read, Disk.size, Disk.size, Disk.readText, Disk.readText, h]

/-- A script is read from a file under the directory `base` alone. -/
structure ReadsUnder (store : Store) (path : String) (base relative : File.Path) : Prop where
  load_eq : ∀ disk, store.load disk path =
    (read disk (base.join relative)).mapError fun fault => .scriptLoad (normalizePath path) fault.message
  /-- The path keeps the directory that it is joined to. -/
  prefix_join : base <+: base.join relative
  not_isAbsolute : relative.isAbsolute = false
  isName : ∀ c ∈ relative.components, c.isName = true
  no_up : [File.Path.point, File.Path.point] ∉ relative.parts
  /-- After every step the way is still in the directory that it began in. -/
  stays : ∀ place front, front <+: relative.components → place <+: front.foldl Component.follow place
  /-- Nothing outside the directory counts. -/
  load_congr : ∀ disk disk' : Disk, disk.place base = disk'.place base →
    store.load disk path = store.load disk' path

/-- A script that is read from a plain path behind a directory is read under that directory. -/
theorem readsUnder_of_isPlain {base relative : File.Path} (hplain : relative.isPlain = true)
    (hload : ∀ disk, store.load disk path = (read disk (base.join relative)).mapError
      fun fault => .scriptLoad (normalizePath path) fault.message) :
    store.ReadsUnder path base relative := by
  obtain ⟨habsolute, -, hup⟩ := File.Path.isPlain_iff.mp hplain
  refine ⟨hload, ?_, habsolute, List.all_eq_true.mp hplain, hup, fun place front hfront =>
    File.Path.prefix_follow_of_isPlain hplain hfront place, fun disk disk' hplace => ?_⟩
  · rw [File.Path.join_of_not_isAbsolute habsolute]
    exact List.prefix_append base _
  · rw [hload, hload, read_congr (Disk.find_join_congr hplace habsolute hup)]

/-- A path that names a resource is spelled in one of two ways, and a bundled resource is served
whatever files there are.  Any other is refused without a look at the files when there is no resource
root or its path climbs; otherwise it is read under the resource root. -/
theorem resource_stays_under_root (store : Store) {path : String} {rest : List Char}
    (hresource : (normalizePath path).toList = resourceMark ++ rest) :
    ((trim path).toList = resourceMark ++ rest ∨ rest.head? ≠ some '/' ∧
      ∃ n, (trim path).toList = ['q', 'r', 'c', ':'] ++ (List.replicate n '/' ++ rest)) ∧
    (∀ source, store.bundled.get? (normalizePath path) = some source →
      ∀ disk, store.load disk path = .ok source) ∧
    (store.contains path = false →
      (store.root = none → ∀ disk, store.load disk path =
        .error (.scriptLoad (normalizePath path) Fault.noResourceRoot.message)) ∧
      ∀ root, store.root = some root →
        (Climbs rest → ∀ disk, store.load disk path =
          .error (.scriptLoad (normalizePath path) Fault.outsideResourceRoot.message)) ∧
        (¬ Climbs rest → store.ReadsUnder path (ofText root) (ofText (String.ofList rest)))) := by
  refine ⟨(toList_normalizePath_iff path rest).mp hresource, fun source hsource disk =>
    load_of_get? disk store (isEmpty_of_resource hresource) hsource, fun hbundled => ?_⟩
  have hnone : store.bundled.get? (normalizePath path) = none := by
    rwa [contains, Keyed.has_eq, Option.isSome_eq_false_iff, Option.isNone_iff_eq_none] at hbundled
  refine ⟨fun hroot disk => load_of_root_eq_none disk hresource hnone hroot, fun root hroot =>
    ⟨fun hclimbs disk => ?_, fun hclimbs => ?_⟩⟩
  · have hplain : (ofText (String.ofList rest)).isPlain = false :=
      Bool.eq_false_iff.mpr fun h => (isPlain_ofText_iff rest).mp h hclimbs
    have hlocate : store.locate (normalizePath path) = .error .outsideResourceRoot := by
      simp only [locate, hresource, dropStart?_append, hroot, hplain, Bool.false_eq_true, if_false]
    rw [load_of_locate disk hresource hnone, hlocate]
    rfl
  · have hplain := (isPlain_ofText_iff rest).mpr hclimbs
    have hlocate : store.locate (normalizePath path) =
        .ok ((ofText root).join (ofText (String.ofList rest))) := by
      simp only [locate, hresource, dropStart?_append, hroot, hplain, if_true]
    refine readsUnder_of_isPlain hplain fun disk => ?_
    rw [load_of_locate disk hresource hnone, hlocate]
    rfl

/-- A path that goes up on its way is refused, though it would come back to the root. -/
theorem resource_stays_under_root_app :
    (∀ disk, (empty.withRoot "/srv").load disk " qrc:///app/../x.js" =
      .error (.scriptLoad ":/app/../x.js" Fault.outsideResourceRoot.message)) ∧
    (empty.withRoot "/srv").ReadsUnder " qrc:///app/./x.js" (ofText "/srv") (ofText "app/./x.js") := by
  have hup : normalizePath " qrc:///app/../x.js" = ":/app/../x.js" := by decide
  have hback : (normalizePath " qrc:///app/../x.js").toList =
      resourceMark ++ "app/../x.js".toList := by decide
  have hthere : (normalizePath " qrc:///app/./x.js").toList =
      resourceMark ++ "app/./x.js".toList := by decide
  obtain ⟨-, -, hfails⟩ := resource_stays_under_root (empty.withRoot "/srv") hback
  obtain ⟨-, -, hreads⟩ := resource_stays_under_root (empty.withRoot "/srv") hthere
  rw [hup] at hfails
  exact ⟨((hfails (by decide)).2 "/srv" rfl).1 (by decide),
    ((hreads (by decide)).2 "/srv" rfl).2 (by decide)⟩

end Store

end PageBridge.Script
