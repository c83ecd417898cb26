import PageBridge.Proofs.Installation.Marks

/-!
# What an installation puts into the engine

A request comes with a list of entries that may be anything, and its user scripts are what a walk over
the list finds.  `Injected` says so entry by entry: one that asks for a script that can be loaded gives
that script, and any other gives nothing.  The model reads the list first and loads the scripts later,
and both times leaves out what fails; `injected_iff` says that this is the walk.
`live_scripts_of_install` puts the walk behind the bootstrap scripts of the request, in the engine and
after any history.
-/

namespace PageBridge

namespace Script

open PageBridge.Json
open PageBridge.Text

/-- What an entry of a list of user scripts asks for.  A text is a path for the main frame.  An object
has a path as a member, and asks for all frames only if a flag is exactly true. -/
inductive Asks : Value → Descriptor → Prop where
  | text {path : String} (filled : trim path ≠ "") : Asks (.string path) ⟨trim path, false⟩
  | object {members : List (String × Value)} {path : String} {subFrames : Bool}
    (names : Value.get? "path" (.object members) = some (.string path)) (filled : trim path ≠ "")
    (flags : subFrames = true ↔
      Value.get? "runOnSubFrames" (.object members) = some (.bool true)) :
    Asks (.object members) ⟨trim path, subFrames⟩

namespace Descriptor

variable {entry : Value} {descriptor : Descriptor}

/-- A flag is set by the value true alone; anything else that stands in its place does not set
it. -/
theorem flag_eq_true_iff {value : Option Value} : flag value = true ↔ value = some (.bool true) := by
  constructor
  · intro h
    unfold flag at h
    split at h
    · rw [h]
    · cases h
  · rintro rfl
    rfl

/-- An entry is read as what it asks for. -/
theorem ofValue?_eq_some_iff : ofValue? entry = some descriptor ↔ Asks entry descriptor := by
  rw [ofValue?, Option.filter_eq_some_iff, Bool.not_eq_true', Bool.eq_false_iff, Ne, String.isEmpty_iff]
  constructor
  · rintro ⟨hread, hfilled⟩
    unfold read? at hread
    split at hread
    · obtain rfl := Option.some.inj hread
      exact .text hfilled
    · split at hread
      · case h_1 hpath =>
        obtain rfl := Option.some.inj hread
        exact .object hpath hfilled flag_eq_true_iff
      · cases hread
    · cases hread
  · intro h
    cases h with
    | text filled => exact ⟨rfl, filled⟩
    | @object members path subFrames names filled flags =>
        refine ⟨?_, filled⟩
        have hflag : flag (Value.get? "runOnSubFrames" (.object members)) = subFrames := by
          rw [Bool.eq_iff_iff, flag_eq_true_iff, flags]
        simp only [read?, names, hflag]

end Descriptor

end Script

namespace Installation

open PageBridge.Json (Value)
open PageBridge.Script (Asks Descriptor Loader)
open PageBridge.Text

/-- The user scripts that a walk over a list of entries puts into the engine. -/
inductive Injected (loader : Loader) : List Value → List UserScript → Prop where
  | nil : Injected loader [] []
  | gives {entry : Value} {descriptor : Descriptor} {source : String} {entries : List Value}
    {scripts : List UserScript} (asks : Asks entry descriptor)
    (loads : loader descriptor.path = .ok source) (rest : Injected loader entries scripts) :
    Injected loader (entry :: entries) (⟨source, !descriptor.subFrames, .page⟩ :: scripts)
  | skips {entry : Value} {entries : List Value} {scripts : List UserScript}
    (nothing : ∀ descriptor source, Asks entry descriptor → loader descriptor.path ≠ .ok source)
    (rest : Injected loader entries scripts) : Injected loader (entry :: entries) scripts

variable {loader : Loader} {entry : Value} {entries : List Value} {scripts : List UserScript}

/-- The scripts that are loaded for the descriptors of a list of entries. -/
def scriptsOf (loader : Loader) (entries : List Value) : List UserScript :=
  userScriptsOf .page (Script.loadAll loader (Descriptor.ofEntries entries))

/-- An entry whose script can be loaded puts it before the scripts of the others. -/
theorem scriptsOf_cons_of_asks {descriptor : Descriptor} {source : String}
    (hasks : Asks entry descriptor) (hloads : loader descriptor.path = .ok source)
    (entries : List Value) :
    scriptsOf loader (entry :: entries) =
      ⟨source, !descriptor.subFrames, .page⟩ :: scriptsOf loader entries := by
  have hload : descriptor.load? loader = some ⟨descriptor, source⟩ := by
    rw [Descriptor.load?, hloads]
  rw [scriptsOf, Descriptor.ofEntries,
    List.filterMap_cons_some (Descriptor.ofValue?_eq_some_iff.mpr hasks), Script.loadAll,
    List.filterMap_cons_some hload]
  rfl

/-- An entry that asks for nothing, or for a script that cannot be loaded, leaves no gap. -/
theorem scriptsOf_cons_of_skips
    (hnothing : ∀ descriptor source, Asks entry descriptor → loader descriptor.path ≠ .ok source)
    (entries : List Value) : scriptsOf loader (entry :: entries) = scriptsOf loader entries := by
  rw [scriptsOf, scriptsOf, Descriptor.ofEntries]
  cases hread : Descriptor.ofValue? entry with
  | none => rw [List.filterMap_cons_none hread]; rfl
  | some descriptor =>
      have hload : descriptor.load? loader = none := by
        rw [Descriptor.load?]
        split
        · case h_1 source hloads =>
          exact absurd hloads (hnothing descriptor source (Descriptor.ofValue?_eq_some_iff.mp hread))
        · rfl
      rw [List.filterMap_cons_some hread, Script.loadAll, List.filterMap_cons_none hload]
      rfl

/-- A walk over a list of entries finds the scripts that are loaded for their descriptors, and these
only. -/
theorem injected_iff : Injected loader entries scripts ↔ scripts = scriptsOf loader entries := by
  constructor
  · intro h
    induction h with
    | nil => rfl
    | gives asks loads rest ih => rw [scriptsOf_cons_of_asks asks loads, ih]
    | skips nothing rest ih => rw [scriptsOf_cons_of_skips nothing, ih]
  · rintro rfl
    induction entries with
    | nil => exact .nil
    | cons entry entries ih =>
        -- whether an entry gives a script depends on the loader, too
        by_cases hgives : ∃ descriptor source,
            Asks entry descriptor ∧ loader descriptor.path = .ok source
        · obtain ⟨descriptor, source, hasks, hloads⟩ := hgives
          rw [scriptsOf_cons_of_asks hasks hloads]
          exact .gives hasks hloads ih
        · have hnothing : ∀ descriptor source, Asks entry descriptor →
              loader descriptor.path ≠ .ok source := fun descriptor source hasks hloads =>
            hgives ⟨descriptor, source, hasks, hloads⟩
          rw [scriptsOf_cons_of_skips hnothing]
          exact .skips hnothing ih

/-- The channel script of a request: its text is loaded if a path is given that is not blank. -/
theorem exists_channel {request : Request} {channelSource : Option String}
    (h : loadOptional loader request.channelPath? = .ok channelSource) :
    (∀ path, request.channelPath = some path → blank path = false →
        ∃ source, loader path = .ok source ∧ channelSource = some source) ∧
      ((∀ path, request.channelPath = some path → blank path = true) → channelSource = none) := by
  rw [Request.channelPath?] at h
  constructor
  · intro path hpath hblank
    have hfilter : request.channelPath.filter (!blank ·) = some path := by
      rw [hpath, Option.filter_some, if_pos (by simp [hblank])]
    rw [hfilter, loadOptional] at h
    cases hload : loader path with
    | error e =>
        rw [hload] at h
        cases h
    | ok source =>
        rw [hload] at h
        exact ⟨source, rfl, (Except.ok.inj h).symm⟩
  · intro hnone
    have hfilter : request.channelPath.filter (!blank ·) = none := by
      rw [Option.filter_eq_none_iff]
      intro path hpath
      simp [hnone path hpath]
    rw [hfilter] at h
    exact (Except.ok.inj h).symm

/-- After a request that has a plan, whatever was done before, the scripts that live in the engine are
those of the request and nothing else: the channel script if a path is given for it, the two halves with
the marks of the request, and the user scripts that the walk over its list of entries finds, in this
order.  Only the bridge half runs in the home world, and only user scripts may run in all frames. -/
theorem live_scripts_of_install (home : World) (pending : List Completion) (history : List Action)
    {request : Request} {plan : Plan} (hscripts : request.userScripts = Descriptor.ofEntries entries)
    (hplan : Plan.resolve loader request = .ok plan) :
    let s := ((vacant home).run history).1
    let engine := Engine.replay ⟨[], [], pending⟩ ((vacant home).run history).2
    ∃ channel page bridge scripts,
      loader Script.pageBootstrapPath = .ok page ∧ loader Script.bridgeBootstrapPath = .ok bridge ∧
        (∀ path, request.channelPath = some path → blank path = false →
          ∃ source, loader path = .ok source ∧ channel = [⟨source, true, .page⟩]) ∧
        ((∀ path, request.channelPath = some path → blank path = true) → channel = []) ∧
        (engine.replay (s.calls (.install loader request))).scripts =
          channel ++
            [⟨Script.fill page request.nspace request.invokeKey, true, .page⟩,
              ⟨Script.fill bridge request.nspace request.invokeKey, true, home⟩] ++ scripts ∧
        Injected loader entries scripts ∧
        ∀ others, Injected loader entries others → others = scripts := by
  intro s engine
  obtain ⟨-, page, bridge, channelSource, hpage, hbridge, hchannel, hmade⟩ :=
    Plan.eq_mk_of_resolve hplan
  obtain ⟨hgiven, hnone⟩ := exists_channel hchannel
  have hhome : s.home = home := home_run (vacant home) history
  have hstep : InStep s engine := (inStep_vacant home pending).run history
  have hlive : (engine.replay (s.calls (.install loader request))).scripts =
      (ofPlan home plan).scripts := by
    rw [(hstep.after (.install loader request)).scripts_eq, after, install_eq, hplan, hhome]
  refine ⟨channelSource.toList.map (⟨·, true, .page⟩), page, bridge, scriptsOf loader entries, hpage,
    hbridge, fun path hpath hblank => ?_, fun hblank => ?_, ?_, injected_iff.mpr rfl,
    fun others => injected_iff.mp⟩
  · obtain ⟨source, hload, rfl⟩ := hgiven path hpath hblank
    exact ⟨source, hload, rfl⟩
  · rw [hnone hblank]
    rfl
  · rw [hlive, hmade, hscripts]
    rfl

/-- Entries of all kinds: a path with a blank behind it, one that cannot be loaded, a blank one, no path
at all, an object with the flag of all frames and one with another flag. -/
theorem live_scripts_of_install_mixed_entries :
    let loader := Script.Store.bootstrap.load .empty
    let entries : List Value :=
      [.string (Script.pageBootstrapPath ++ " "), .string ":/missing.js", .string " ", .null,
        .object [("path", .string Script.pageBootstrapPath), ("runOnSubFrames", .bool true)],
        .object [("path", .string Script.pageBootstrapPath), ("runOnSubFrames", .string "true")]]
    let request : Request := ⟨"qt", ["*"], "key", none, Descriptor.ofEntries entries⟩
    let s := ((vacant .page).run [.updateOrigins []]).1
    (∃ plan, Plan.resolve loader request = .ok plan) ∧
      ∃ halves, (Engine.empty.replay (s.calls (.install loader request))).scripts =
        halves ++ [⟨Script.pageTemplate, true, .page⟩, ⟨Script.pageTemplate, false, .page⟩,
          ⟨Script.pageTemplate, true, .page⟩] := by
  intro loader entries request s
  have hserves : Script.Serves loader := Script.Store.serves_bootstrap .empty
  have hvalid : request.validate = .ok () := Request.validate_eq_ok_iff.mpr ⟨by decide, by decide⟩
  obtain ⟨plan, hplan⟩ := Plan.exists_resolve hserves hvalid rfl
  have hscripts : request.userScripts = Descriptor.ofEntries entries := rfl
  obtain ⟨channel, page, bridge, scripts, -, -, -, -, hlive, -, hunique⟩ :=
    live_scripts_of_install .page [] [.updateOrigins []] hscripts hplan
  have htrim : trim (Script.pageBootstrapPath ++ " ") = Script.pageBootstrapPath := by decide
  have hpath : trim Script.pageBootstrapPath = Script.pageBootstrapPath := by decide
  have hfilled : Script.pageBootstrapPath ≠ "" := by decide
  have hmissing : ∀ descriptor source, Asks (.string ":/missing.js") descriptor →
      loader descriptor.path ≠ .ok source := by
    have hresource : (Script.normalizePath (trim ":/missing.js")).toList =
        Script.resourceMark ++ "missing.js".toList := by decide
    have hbundled : Script.Store.bootstrap.bundled.get? (Script.normalizePath (trim ":/missing.js")) =
        none := by decide +kernel
    have hload := Script.Store.load_of_root_eq_none .empty hresource hbundled rfl
    rintro _ source ⟨⟩ hok
    exact nomatch hload.symm.trans hok
  have hblank : ∀ descriptor source, Asks (.string " ") descriptor →
      loader descriptor.path ≠ .ok source := by
    rintro _ source ⟨hfilled⟩
    exact absurd (by decide) hfilled
  have hfirst : Asks (.string (Script.pageBootstrapPath ++ " ")) ⟨Script.pageBootstrapPath, false⟩ :=
    htrim ▸ .text (htrim ▸ hfilled)
  have hobject (flag : Value) (subFrames : Bool) (hflag : subFrames = true ↔ flag = .bool true) :
      Asks (.object [("path", .string Script.pageBootstrapPath), ("runOnSubFrames", flag)])
        ⟨Script.pageBootstrapPath, subFrames⟩ := by
    let members : List (String × Value) :=
      [("path", .string Script.pageBootstrapPath), ("runOnSubFrames", flag)]
    have hnames : Value.get? "path" (.object members) = some (.string Script.pageBootstrapPath) := rfl
    have hasks := Asks.object hnames (hpath ▸ hfilled) (hflag.trans Option.some_inj.symm)
    rwa [hpath] at hasks
  have hinjected : Injected loader entries
      [⟨Script.pageTemplate, true, .page⟩, ⟨Script.pageTemplate, false, .page⟩,
        ⟨Script.pageTemplate, true, .page⟩] :=
    .gives hfirst hserves.page_eq <| .skips hmissing <| .skips hblank <| .skips nofun <|
      .gives (hobject _ true (by simp)) hserves.page_eq <|
        .gives (hobject _ false (by simp)) hserves.page_eq .nil
  rw [← hunique _ hinjected] at hlive
  exact ⟨⟨plan, hplan⟩, _, hlive⟩

end Installation

end PageBridge
