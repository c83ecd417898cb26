import PageBridge.Proofs.Host.QueuedInstall
import PageBridge.Proofs.Host.Run
import PageBridge.Proofs.Installation.Marks

/-!
# Settings of a view and its bridge

What a bridge is installed with is decided when a view is asked to install it, but the bridge hears of
it only when the queued commands are carried out.  User scripts may be set before, between and after,
and requests may fail.  Every call is a `Setting`, which gives the view another configuration and queues
what it means for the bridge at that moment.  `UpToDate` is what every setting keeps: whatever plan
stands, the user scripts that stand are those of the present configuration.
`bridge_follows_settings` says what the bridge is in the end.
-/

namespace PageBridge.Host

open PageBridge.Installation (Plan Standing userScriptsOf)

/-- The user scripts of a configuration, with their texts. -/
def Config.loaded (files : File.Disk) (config : Config) : List Script.Loaded :=
  Script.loadAll (config.store.load files) config.userScripts

/-- A call on a view that has to do with what its bridge is installed with. -/
inductive Setting where
  | scripts (entries : List Json.Value)
  | nspace (name : String)
  | install (nspace : Option String) (origins : List String) (key : String)
      (channelPath : Option String)

namespace Setting

/-- A setting as an action on a view. -/
def action : Setting → ViewAction
  | .scripts entries => .setScripts entries
  | .nspace name => .setNspace name
  | .install name origins key channelPath => .install name origins key channelPath

/-- A setting of a view, as something that happens to a host. -/
def on (id : ViewId) (setting : Setting) : Happening := .act (.onView id setting.action)

/-- Whether a setting asks for a bridge. -/
def installs : Setting → Bool
  | .install .. => true
  | _ => false

/-- The configuration after a setting. -/
def configure (config : Config) : Setting → Config
  | .scripts entries => { config with userScripts := Script.Descriptor.ofEntries entries }
  | .nspace name => { config with nspace := name }
  | .install .. => config

/-- The command that a setting queues, if it queues one. -/
def command? (files : File.Disk) (config : Config) (setting : Setting) : Option Command :=
  match setting with
  | .scripts _ => some (.setScripts ((setting.configure config).loaded files))
  | .nspace _ => none
  | .install name origins key channelPath =>
    some (.install (plan? files config (config.request name origins key channelPath)))

/-- The commands that settings queue, one after the other. -/
def commands (files : File.Disk) (config : Config) : List Setting → List Command
  | [] => []
  | setting :: settings =>
    (setting.command? files config).toList ++ commands files (setting.configure config) settings

/-- Later settings start from the configuration that earlier ones leave. -/
theorem commands_append (files : File.Disk) (config : Config) (settings more : List Setting) :
    commands files config (settings ++ more) =
      commands files config settings ++ commands files (settings.foldl configure config) more := by
  induction settings generalizing config with
  | nil => rfl
  | cons setting settings ih =>
      rw [List.cons_append, commands, commands, ih, List.foldl_cons, List.append_assoc]

end Setting

/-! ## Settings in a host -/

section Queued

variable (files : File.Disk) {h : Host} {id : ViewId} {config : Config}

/-- A view has the configuration that it was given last. -/
theorem config_configure (h : Host) (id : ViewId) (config : Config) :
    (h.configure id config).config id = .ok config := by
  rw [config_eq_ok_iff, configure, Keyed.get?_set, if_pos rfl]

/-- A setting of a view that is known is remembered, and queues its command at the end. -/
theorem after_on (hconfig : h.config id = .ok config) (setting : Setting) :
    (h.after files (setting.on id)).config id = .ok (setting.configure config) ∧
      (h.after files (setting.on id)).commands.toList =
        h.commands.toList ++
          (setting.command? files config).toList.map fun command => (id, command) := by
  cases setting with
  | scripts entries =>
      have hafter : h.after files ((Setting.scripts entries).on id) =
          (h.configure id ((Setting.scripts entries).configure config)).push id
            (.setScripts (((Setting.scripts entries).configure config).loaded files)) := by
        simp only [Setting.on, Setting.action, after, perform, performOn, setScripts, hconfig]
        rfl
      rw [hafter]
      exact ⟨config_configure h id _, Array.toList_push⟩
  | nspace name =>
      have hafter : h.after files ((Setting.nspace name).on id) =
          h.configure id ((Setting.nspace name).configure config) := by
        simp only [Setting.on, Setting.action, after, perform, performOn, setNspace, hconfig]
        rfl
      rw [hafter]
      exact ⟨config_configure h id _, (List.append_nil _).symm⟩
  | install nspace origins key channelPath =>
      have hafter : h.after files ((Setting.install nspace origins key channelPath).on id) =
          h.push id (.install (plan? files config (config.request nspace origins key channelPath))) :=
        congrArg Prod.snd (performOn_install hconfig nspace origins key channelPath)
      rw [hafter]
      exact ⟨hconfig, Array.toList_push⟩

/-- Settings of a view that is known are remembered, and queue their commands at the end. -/
theorem run_on (hconfig : h.config id = .ok config) (settings : List Setting) :
    (h.run files (settings.map (Setting.on id))).config id =
        .ok (settings.foldl Setting.configure config) ∧
      (h.run files (settings.map (Setting.on id))).commands.toList =
        h.commands.toList ++
          (Setting.commands files config settings).map fun command => (id, command) := by
  induction settings generalizing h config with
  | nil => exact ⟨hconfig, (List.append_nil _).symm⟩
  | cons setting settings ih =>
      obtain ⟨hafter, hqueued⟩ := after_on files hconfig setting
      obtain ⟨hlast, hcommands⟩ := ih hafter
      refine ⟨hlast, hcommands.trans ?_⟩
      rw [hqueued, Setting.commands, List.map_append, List.append_assoc]

/-- A view that was just created has the configuration of its options, and its creation is queued. -/
theorem created_of_perform {files : File.Disk} {created : Host} {options : Options}
    (hcreate : h.perform files (.create options) = (.ok (.created id), created)) :
    created.config id = .ok (.ofOptions options) ∧
      created.commands.toList = h.commands.toList ++ [(id, .create options)] := by
  rw [perform] at hcreate
  rcases h.create_cases options with ⟨e, hfails⟩ | ⟨-, -, hdoes⟩
  · rw [hfails] at hcreate
    cases hcreate
  · rw [hdoes] at hcreate
    cases hcreate
    refine ⟨?_, Array.toList_push⟩
    rw [config_eq_ok_iff, withView, Keyed.get?_set, if_pos rfl]

end Queued

/-! ## Settings in a bridge -/

/-- What commands do with the installation of a bridge. -/
def managed (commands : List Command) : List Installation.Action :=
  (commands.filterMap Command.bridgeAction?).filterMap Bridge.Action.managed?

/-- Commands are passed on in their order. -/
theorem managed_append (commands more : List Command) :
    managed (commands ++ more) = managed commands ++ managed more := by
  rw [managed, List.filterMap_append, List.filterMap_append]
  rfl

/-- A request that was resolved is a plan to apply, or an end of the installation. -/
theorem managed_install (plan : Option Plan) (commands : List Command) :
    managed (.install plan :: commands) =
      Installation.Action.ofPlan? plan :: managed commands := by
  cases plan <;> rfl

/-- The user scripts that stand are those of a configuration, if a plan stands at all. -/
def UpToDate (files : File.Disk) (config : Config) (s : Standing) : Prop :=
  s.plan.isSome = true → s.scripts = config.loaded files

section Replayed

variable {files : File.Disk} {config : Config} {s : Standing}

/-- A plan that a host has made was made with the scripts of the configuration. -/
theorem resolve_of_plan? {request : Installation.Request} {plan : Plan}
    (hplan : plan? files config request = some plan) :
    Plan.resolve (config.store.load files) request = .ok plan := by
  rw [plan?] at hplan
  cases hresolve : Plan.resolve (config.store.load files) request with
  | error e =>
      rw [hresolve] at hplan
      cases hplan
  | ok made =>
      rw [hresolve] at hplan
      exact congrArg Except.ok (Option.some.inj hplan)

/-- A plan that was just made has the user scripts of the configuration. -/
theorem upToDate_ofPlan? (nspace : Option String) (origins : List String) (key : String)
    (channelPath : Option String) :
    UpToDate files config
      (Standing.ofPlan? (plan? files config (config.request nspace origins key channelPath))) := by
  intro hmade
  obtain ⟨plan, hplan⟩ := Option.isSome_iff_exists.mp hmade
  change plan? files config _ = some plan at hplan
  rw [hplan]
  exact Plan.userScripts_of_resolve (resolve_of_plan? hplan)

/-- Every setting keeps what stands up to date. -/
theorem UpToDate.setting (hs : UpToDate files config s) (setting : Setting) :
    UpToDate files (setting.configure config)
      ((managed (setting.command? files config).toList).foldl Standing.after s) := by
  cases setting with
  | scripts entries => exact fun _ => rfl
  | nspace name => exact hs
  | install nspace origins key channelPath =>
      have hmanaged := managed_install
        (plan? files config (config.request nspace origins key channelPath)) []
      -- a request decides anew what stands, so that it does not matter what stood before
      rw [Setting.command?, Option.toList_some, hmanaged, List.foldl_cons,
        Standing.after_of_decides s (Installation.Action.decides_ofPlan? _),
        Installation.Action.plan?_ofPlan?]
      exact upToDate_ofPlan? nspace origins key channelPath

/-- Settings keep what stands up to date. -/
theorem UpToDate.settings (hs : UpToDate files config s) (settings : List Setting) :
    UpToDate files (settings.foldl Setting.configure config)
      ((managed (Setting.commands files config settings)).foldl Standing.after s) := by
  induction settings generalizing config s with
  | nil => exact hs
  | cons setting settings ih =>
      rw [Setting.commands, managed_append, List.foldl_append]
      exact ih (hs.setting setting)

/-- Settings that ask for no bridge decide nothing. -/
theorem not_decides_of_not_installs {settings : List Setting}
    (hnone : ∀ setting ∈ settings, setting.installs = false) :
    ∀ action ∈ managed (Setting.commands files config settings), action.decides = false := by
  induction settings generalizing config with
  | nil => exact nofun
  | cons setting settings ih =>
      intro action haction
      rw [Setting.commands, managed_append, List.mem_append] at haction
      rcases haction with hfirst | hlater
      · cases setting with
        | scripts entries =>
            obtain rfl := List.mem_singleton.mp hfirst
            rfl
        | nspace name => cases hfirst
        | install => cases hnone _ List.mem_cons_self
      · exact ih (fun setting hmem => hnone setting (List.mem_cons_of_mem _ hmem)) action hlater

/-- After the last request for a bridge, its plan stands. -/
theorem plan_ofHistory_settings (config : Config) (before : List Setting)
    (nspace : Option String) (origins : List String) (key : String) (channelPath : Option String)
    {since : List Setting} (hsince : ∀ setting ∈ since, setting.installs = false) :
    let earlier := before.foldl Setting.configure config
    (Standing.ofHistory (managed (Setting.commands files config
        (before ++ .install nspace origins key channelPath :: since)))).plan =
      plan? files earlier (earlier.request nspace origins key channelPath) := by
  intro earlier
  rw [Setting.commands_append, Setting.commands, Setting.command?, Option.toList_some,
    List.singleton_append, managed_append, managed_install,
    Standing.plan_ofHistory _ (Installation.Action.decides_ofPlan? _)
      (not_decides_of_not_installs hsince), Installation.Action.plan?_ofPlan?]

end Replayed

/-! ## The bridge in the end -/

/-- A view is created and then set up in any way, and a bridge is told all that was queued for it.  If
it is installed in the end, its user scripts are those of the configuration that the view has now,
and its engine has them after the bootstrap scripts.  It is not installed when no bridge was asked
for; otherwise it is installed exactly when the last request was answered so, and has the namespace
of that request, or that of the configuration at that moment. -/
theorem bridge_follows_settings {files : File.Disk} {h created : Host} {options : Options}
    {id : ViewId} (hcreate : h.perform files (.create options) = (.ok (.created id), created))
    (home : World) (settings : List Setting) :
    let last := created.run files (settings.map (Setting.on id))
    ∃ (queued : List Command) (config : Config),
      last.commands.toList = h.commands.toList ++ queued.map (fun command => (id, command)) ∧
        last.config id = .ok config ∧
        let told := (Bridge.fresh home).run (queued.filterMap Command.bridgeAction?)
        let i := told.1.installation
        (i.session.installed = true →
            i.userScripts = userScriptsOf home (config.loaded files) ∧
              (Engine.empty.replay (told.2.filterMap Effect.call?)).scripts =
                i.bootstrapScripts ++ i.userScripts) ∧
          ((∀ setting ∈ settings, setting.installs = false) → i.session.installed = false) ∧
          ∀ before nspace origins key channelPath since,
            settings = before ++ .install nspace origins key channelPath :: since →
            (∀ setting ∈ since, setting.installs = false) →
            let asked := created.run files (before.map (Setting.on id))
            let request := ViewAction.install nspace origins key channelPath
            ∃ earlier ok, asked.config id = .ok earlier ∧
              (asked.perform files (.onView id request)).1 = .ok (.installed ok) ∧
              i.session.installed = ok ∧
              (ok = true →
                i.session.nspace = (nspace.filter (!·.isEmpty)).getD earlier.nspace) := by
  intro last
  obtain ⟨hconfig, hcreated⟩ := created_of_perform hcreate
  obtain ⟨hlast, hcommands⟩ := run_on files hconfig settings
  let commands := Setting.commands files (.ofOptions options) settings
  refine ⟨.create options :: commands, _, ?_, hlast, ?_⟩
  · rw [hcommands, hcreated, List.append_assoc]
    rfl
  intro told i
  let s := Standing.ofHistory (managed commands)
  have hi : i = s.installation home := Bridge.installation_run_fresh home _
  have hinstalled : i.session.installed = s.plan.isSome := by
    rw [hi, Standing.installed_installation]
  refine ⟨fun hinst => ⟨?_, (Bridge.inStep_run_fresh home _).scripts_eq⟩, fun hnone => ?_, ?_⟩
  · rw [hinstalled] at hinst
    have hvacant : UpToDate files (.ofOptions options) (Standing.ofPlan? none) := nofun
    have hscripts : s.scripts = _ := hvacant.settings settings hinst
    obtain ⟨plan, hplan⟩ := Option.isSome_iff_exists.mp hinst
    rw [hi, Standing.installation_of_plan_eq_some home hplan, hscripts]
  · rw [hinstalled, Standing.plan_ofHistory_of_undecided (not_decides_of_not_installs hnone)]
    rfl
  · rintro before nspace origins key channelPath since rfl hsince asked request
    let earlier := before.foldl Setting.configure (.ofOptions options)
    have hearlier : asked.config id = .ok earlier := (run_on files hconfig before).1
    have hplan : s.plan = plan? files earlier (earlier.request nspace origins key channelPath) :=
      plan_ofHistory_settings _ before nspace origins key channelPath hsince
    refine ⟨earlier, s.plan.isSome, hearlier, ?_, hinstalled, fun hok => ?_⟩
    · rw [hplan]
      exact congrArg Prod.fst (performOn_install hearlier nspace origins key channelPath)
    · obtain ⟨plan, hstands⟩ := Option.isSome_iff_exists.mp hok
      rw [hi, Standing.installation_of_plan_eq_some home hstands]
      rw [hplan] at hstands
      exact Plan.nspace_of_resolve (resolve_of_plan? hstands)

/-- A user script and another namespace that come after the request: the bridge has the script, and the
namespace that new views have. -/
theorem bridge_follows_settings_late_script :
    let created := (started.perform .empty (.create .none)).2
    let entry := Json.Value.string Script.pageBootstrapPath
    let last := created.run .empty
      ([.install none ["*"] "key" none, .nspace "other", .scripts [entry]].map (Setting.on 1))
    let queued := last.commands.toList.map Prod.snd
    let i := ((Bridge.fresh .page).run (queued.filterMap Command.bridgeAction?)).1.installation
    started.perform .empty (.create .none) = (.ok (.created 1), created) ∧
      i.session.installed = true ∧ i.session.nspace = defaultNspace ∧
      i.userScripts = [⟨Script.pageTemplate, true, .page⟩] := by
  intro created entry last queued i
  let since : List Setting := [.nspace "other", .scripts [entry]]
  have hserves := Script.Store.serves_bootstrap .empty
  have hcreate : started.perform .empty (.create .none) = (.ok (.created 1), created) :=
    create_of_lt rfl (by decide) .none
  obtain ⟨commands, config, hcommands, hconfig, hscripts, -, hlast⟩ :=
    bridge_follows_settings hcreate .page (.install none ["*"] "key" none :: since)
  obtain rfl : commands = queued := by
    have hall : queued = (commands.map fun command => (1, command)).map Prod.snd :=
      congrArg (List.map Prod.snd) hcommands
    rw [hall, List.map_map]
    exact (List.map_id commands).symm
  have hfirst : created.config 1 = .ok (.ofOptions .none) := (created_of_perform hcreate).1
  obtain ⟨earlier, ok, hearlier, hreply, hinstalled, hnspace⟩ :=
    hlast [] none ["*"] "key" none since rfl (by decide)
  obtain rfl : Config.ofOptions .none = earlier := Except.ok.inj (hfirst.symm.trans hearlier)
  -- the request is valid and the bootstrap scripts are bundled, so it has a plan
  obtain rfl : true = ok := by
    have hvalid : ((Config.ofOptions .none).request none ["*"] "key" none).validate = .ok () :=
      Installation.Request.validate_eq_ok_iff.mpr ⟨by decide, by decide⟩
    obtain ⟨plan, hplan⟩ := Installation.Plan.exists_resolve hserves hvalid rfl
    have hanswer : (created.performOn .empty 1 (.install none ["*"] "key" none)).1 =
        .ok (.installed true) := by
      rw [performOn_install hfirst]
      exact congrArg (fun made => Except.ok (Reply.installed made.toOption.isSome)) hplan
    exact Reply.installed.inj (Except.ok.inj (hanswer.symm.trans hreply))
  obtain rfl : { Config.ofOptions .none with
      nspace := "other", userScripts := [⟨Script.pageBootstrapPath, false⟩] } = config :=
    Except.ok.inj
      ((run_on .empty hfirst (.install none ["*"] "key" none :: since)).1.symm.trans hconfig)
  have hload : Script.Descriptor.load? (Script.Store.bootstrap.load .empty)
      ⟨Script.pageBootstrapPath, false⟩ =
        some ⟨⟨Script.pageBootstrapPath, false⟩, Script.pageTemplate⟩ := by
    rw [Script.Descriptor.load?, hserves.page_eq]
  refine ⟨hcreate, hinstalled, hnspace rfl, (hscripts hinstalled).1.trans ?_⟩
  exact congrArg (userScriptsOf .page) (List.filterMap_cons_some hload)

end PageBridge.Host
