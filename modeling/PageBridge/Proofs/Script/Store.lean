import PageBridge.Proofs.Text.Split
import PageBridge.Script.Store

/-!
# Loaders that serve the bundled bootstrap scripts

`Serves` is all that is asked of a loader where the texts of the bootstrap scripts matter.  The
store that a program starts with has it on every disk.
-/

namespace PageBridge.Script

/-- A loader has the bundled bootstrap scripts, whatever else it loads. -/
structure Serves (loader : Loader) : Prop where
  page_eq : loader pageBootstrapPath = .ok pageTemplate
  bridge_eq : loader bridgeBootstrapPath = .ok bridgeTemplate

theorem normalizePath_pageBootstrapPath : normalizePath pageBootstrapPath = pageBootstrapPath := by
  decide

theorem normalizePath_bridgeBootstrapPath :
    normalizePath bridgeBootstrapPath = bridgeBootstrapPath := by
  decide

namespace Store

/-- A bundled resource is loaded from the store, whatever is on the disk. -/
theorem load_of_get? (disk : File.Disk) (store : Store) {path source : String}
    (hpath : (normalizePath path).isEmpty = false)
    (hsource : store.bundled.get? (normalizePath path) = some source) :
    store.load disk path = .ok source := by
  have hfetch : store.fetch disk (normalizePath path) = .ok source := by
    simp only [fetch, hpath, hsource, Bool.false_eq_true, if_false]
  simp only [load, hfetch]
  rfl

section Resource

variable {store : Store} {path : String} {rest : List Char}

/-- The path of a resource is not empty, as it has its mark. -/
theorem isEmpty_of_resource (hresource : (normalizePath path).toList = resourceMark ++ rest) :
    (normalizePath path).isEmpty = false := by
  rw [Bool.eq_false_iff, Ne, String.isEmpty_iff, ← String.toList_eq_nil_iff, hresource]
  exact List.cons_ne_nil _ _

/-- A resource that is not bundled is loaded from the file that its path names. -/
theorem load_of_locate (disk : File.Disk)
    (hresource : (normalizePath path).toList = resourceMark ++ rest)
    (hbundled : store.bundled.get? (normalizePath path) = none) :
    store.load disk path = ((store.locate (normalizePath path)).bind (read disk)).mapError
      fun fault => .scriptLoad (normalizePath path) fault.message := by
  simp only [load, fetch, isEmpty_of_resource hresource, hbundled, Bool.false_eq_true, if_false]

/-- A resource that is not bundled is not found without a resource root, whatever is on the disk. -/
theorem load_of_root_eq_none (disk : File.Disk)
    (hresource : (normalizePath path).toList = resourceMark ++ rest)
    (hbundled : store.bundled.get? (normalizePath path) = none) (hroot : store.root = none) :
    store.load disk path = .error (.scriptLoad (normalizePath path) Fault.noResourceRoot.message) := by
  have hlocate : store.locate (normalizePath path) = .error .noResourceRoot := by
    simp only [locate, hresource, Text.dropStart?_append, hroot]
  rw [load_of_locate disk hresource hbundled, hlocate]
  rfl

end Resource

/-- A store fails with the path in normal form and the words for what is wrong with it. -/
theorem exists_of_load_eq_error {disk : File.Disk} {store : Store} {path : String} {e : Error}
    (h : store.load disk path = .error e) :
    ∃ reason, e = .scriptLoad (normalizePath path) reason := by
  simp only [load] at h
  cases hfetch : store.fetch disk (normalizePath path) with
  | ok source =>
      rw [hfetch] at h
      cases h
  | error fault =>
      rw [hfetch] at h
      exact ⟨fault.message, (Except.error.inj h).symm⟩

/-- The store with the bootstrap templates serves them on every disk. -/
theorem serves_bootstrap (disk : File.Disk) : Serves (bootstrap.load disk) where
  page_eq := by
    refine load_of_get? disk bootstrap (by decide) ?_
    rw [bootstrap, insert, insert, Keyed.get?_set, normalizePath_pageBootstrapPath,
      normalizePath_bridgeBootstrapPath, if_neg (by decide), Keyed.get?_set, if_pos rfl]
  bridge_eq := by
    refine load_of_get? disk bootstrap (by decide) ?_
    rw [bootstrap, insert, Keyed.get?_set, if_pos rfl]

end Store

end PageBridge.Script
