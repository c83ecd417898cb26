import PageBridge.Host.Action

/-!
# What an action does to a host

An action on a view looks at the configuration of that view and at nothing else of the host.  It
either fails, or makes a `ViewChange`, which may give the view another configuration, register a
callback and queue a command; `performOn_cases` says this once for all of them, and what other
modules need to know of an action follows from there.  Most actions on a host check something before
they do it: `Refused` lists what they check.  `failures_change_nothing` says that a host that refuses
an action is the host that it was, and that a view that does not queues one command at most.
-/

namespace PageBridge.Host

open PageBridge.Text (trim)

/-! ## Changes of one view -/

/-- What an action may do to its view. -/
structure ViewChange where
  config : Option Config
  callback : Option (Notice.Kind × Callback)
  command : Option Command

namespace ViewChange

/-- Nothing is done. -/
def nothing : ViewChange := ⟨none, none, none⟩

/-- A command is queued and nothing else is done. -/
def queued (command : Command) : ViewChange := ⟨none, none, some command⟩

end ViewChange

/-- The host after a change of one of its views. -/
def change (h : Host) (id : ViewId) (c : ViewChange) : Host :=
  { h with
    configs := c.config.elim h.configs fun config => h.configs.set id config
    callbacks := c.callback.elim h.callbacks fun (kind, callback) =>
      h.callbacks.update id (·.set kind callback)
    commands := c.command.elim h.commands fun command => h.commands.push (id, command) }

/-- A change that does nothing is none. -/
theorem change_nothing (h : Host) (id : ViewId) : h.change id .nothing = h := rfl

/-- To queue a command is the whole of most changes. -/
theorem change_queued (h : Host) (id : ViewId) (command : Command) :
    h.change id (.queued command) = h.push id command := rfl

/-- A change adds its command, if it has one, at the end of those that are queued. -/
theorem commands_change (h : Host) (id : ViewId) (c : ViewChange) :
    (h.change id c).commands.toList =
      h.commands.toList ++ c.command.toList.map fun command => (id, command) := by
  cases hcommand : c.command with
  | none => simp [change, hcommand]
  | some command => simp [change, hcommand]

/-- A change gives a configuration to its own view only. -/
theorem get?_configs_change (h : Host) (id other : ViewId) (c : ViewChange) :
    (h.change id c).configs.get? other =
      if other = id then c.config.or (h.configs.get? other) else h.configs.get? other := by
  cases hconfig : c.config with
  | none => simp only [change, hconfig, Option.elim_none, Option.none_or, ite_self]
  | some config => simp only [change, hconfig, Option.elim_some, Option.some_or, Keyed.get?_set]

/-- A change registers a callback with its own view only, and only if the view is known. -/
theorem get?_callbacks_change (h : Host) (id other : ViewId) (c : ViewChange) :
    (h.change id c).callbacks.get? other =
      if other = id then
        (h.callbacks.get? other).map fun registered =>
          c.callback.elim registered fun (kind, callback) => registered.set kind callback
      else h.callbacks.get? other := by
  cases hcallback : c.callback with
  | none => simp only [change, hcallback, Option.elim_none, Option.map_id', ite_self]
  | some new => simp only [change, hcallback, Option.elim_some, Keyed.get?_update]

/-! ## Actions on views -/

/-- Whether an action needs the configuration of its view. -/
def ViewAction.needsConfig : ViewAction → Bool
  | install .. | setScripts _ | getNspace | setNspace _ => true
  | _ => false

/-- An action on a view does what the configuration of the view tells it to do, whatever else there is
in the host.  It fails and leaves the host alone, or it changes the view, and gives a configuration
only to a view that has one. -/
theorem performOn_cases (files : File.Disk) (id : ViewId) (known : Except Error Config)
    (action : ViewAction) :
    (∃ e, ∀ h : Host, h.config id = known → h.performOn files id action = (.error e, h)) ∨
      ∃ reply c, (c.config.isSome = true → ∃ config, known = .ok config) ∧
        ∀ h : Host, h.config id = known →
          h.performOn files id action = (.ok reply, h.change id c) := by
  cases action with
  | install nspace origins key channelPath =>
      cases known with
      | error e => exact .inl ⟨e, fun h hknown => by simp only [performOn, install, hknown]⟩
      | ok config =>
          let plan := plan? files config (config.request nspace origins key channelPath)
          refine .inr ⟨.installed plan.isSome, .queued (.install plan), nofun, fun h hknown => ?_⟩
          simp only [performOn, install, hknown, change_queued, plan]
  | setScripts entries =>
      cases known with
      | error e => exact .inl ⟨e, fun h hknown => by simp only [performOn, setScripts, hknown]⟩
      | ok config =>
          let config' := { config with userScripts := Script.Descriptor.ofEntries entries }
          let loaded := Script.loadAll (config'.store.load files) config'.userScripts
          refine .inr ⟨.done, ⟨some config', none, some (.setScripts loaded)⟩,
            fun _ => ⟨config, rfl⟩, fun h hknown => ?_⟩
          simp only [performOn, setScripts, hknown]
          rfl
  | getNspace =>
      cases known with
      | error e =>
          refine .inl ⟨e, fun h hknown => ?_⟩
          rw [performOn, getNspace, hknown]
          rfl
      | ok config =>
          refine .inr ⟨.nspace config.nspace, .nothing, nofun, fun h hknown => ?_⟩
          rw [performOn, getNspace, hknown]
          rfl
  | setNspace nspace =>
      cases known with
      | error e => exact .inl ⟨e, fun h hknown => by simp only [performOn, setNspace, hknown]⟩
      | ok config =>
          refine .inr ⟨.done, ⟨some { config with nspace }, none, none⟩, fun _ => ⟨config, rfl⟩,
            fun h hknown => ?_⟩
          simp only [performOn, setNspace, hknown]
          rfl
  | send text =>
      cases hparse : Json.parse text with
      | error fault =>
          refine .inl ⟨.badMessage (fault.message text.toList), fun h _ => ?_⟩
          simp only [performOn, send, hparse]
      | ok message =>
          refine .inr ⟨.done, .queued (.send message), nofun, fun h _ => ?_⟩
          simp only [performOn, send, hparse, queue, change_queued]
  | loadUrl url =>
      by_cases hload : isLoadable (trim url) = true
      · refine .inr ⟨.done, .queued (.loadUrl (trim url)), nofun, fun h _ => ?_⟩
        rw [performOn, loadUrl, if_pos hload, queue, change_queued]
      · refine .inl ⟨.blockedUrl, fun h _ => ?_⟩
        rw [performOn, loadUrl, if_neg hload]
  | listen kind callback =>
      exact .inr ⟨.done, ⟨none, some (kind, callback), none⟩, nofun, fun _ _ => rfl⟩
  | post | run | updateOrigins | removeScripts | loadHtml | reload | place | setVisible | close
  | drop =>
      -- all the others only queue a command, and look at no configuration
      exact .inr ⟨.done, .queued _, nofun, fun h _ => (congrArg _ (h.change_queued id _)).symm⟩

/-- Whatever is done with a view, the host changes in that view, and a configuration is given only to a
view that has one. -/
theorem exists_change (files : File.Disk) (h : Host) (id : ViewId) (action : ViewAction) :
    ∃ c, (c.config.isSome = true → ∃ config, h.config id = .ok config) ∧
      (h.performOn files id action).2 = h.change id c := by
  rcases performOn_cases files id (h.config id) action with ⟨e, hfails⟩ | ⟨reply, c, hknown, hdoes⟩
  · exact ⟨.nothing, nofun, by rw [hfails h rfl, change_nothing]⟩
  · exact ⟨c, hknown, by rw [hdoes h rfl]⟩

/-- A view has a configuration while it is known. -/
theorem config_eq_ok_iff (h : Host) (id : ViewId) (config : Config) :
    h.config id = .ok config ↔ h.configs.get? id = some config := by
  rw [Host.config]
  cases h.configs.get? id <;> simp

/-- The only way to have no configuration is not to be known, and the error names the view. -/
theorem config_eq_error_iff (h : Host) (id : ViewId) (e : Error) :
    h.config id = .error e ↔ h.configs.has id = false ∧ e = .noView id := by
  rw [config, Keyed.has_eq]
  cases h.configs.get? id with
  | none => simp [eq_comm]
  | some config => simp

/-! ## The host itself -/

/-- Making a host ready changes nothing: it is ready, or it cannot be made so on this machine. -/
theorem start_eq (h : Host) :
    h.start = (if h.ready then .ok .done else .error .unsupportedPlatform, h) := by
  cases hready : h.ready <;> simp [start, hready]

/-- A host that is not ready refuses to be pumped, and keeps what is queued. -/
theorem pump_of_not_ready {h : Host} (hready : h.ready = false) :
    h.pump = (.error .notReady, h) := by
  rw [pump, hready]
  rfl

/-- Without a platform there is nobody to carry out the commands, and they are lost. -/
theorem pump_of_no_platform {h : Host} (hready : h.ready = true) (hplatform : h.hasPlatform = false) :
    h.pump = (.ok .none, { h with commands := #[] }) := by
  rw [pump, hready, hplatform]
  rfl

/-! ## New views -/

/-- The host with one more view. -/
def withView (h : Host) (options : Options) : Host :=
  { h with
    nextId := h.nextId + 1
    commands := h.commands.push (h.nextId, .create options)
    callbacks := h.callbacks.set h.nextId []
    configs := h.configs.set h.nextId (.ofOptions options) }

/-- A host that is not ready makes no views and gives out no number. -/
theorem create_of_not_ready {h : Host} (hready : h.ready = false) (options : Options) :
    h.create options = (.error .notReady, h) := by
  rw [create, hready]
  rfl

/-- A host whose numbers are used up notices before it does anything. -/
theorem create_of_exhausted {h : Host} (hready : h.ready = true) (hid : maxId ≤ h.nextId)
    (options : Options) : h.create options = (.error .idsExhausted, h) := by
  rw [create, hready, allocate, if_pos hid]
  rfl

/-- A view takes the next number, and its creation is queued. -/
theorem create_of_lt {h : Host} (hready : h.ready = true) (hid : h.nextId < maxId)
    (options : Options) : h.create options = (.ok (.created h.nextId), h.withView options) := by
  rw [create, hready, allocate, if_neg (Nat.not_le.mpr hid)]
  rfl

/-- A host creates a view, or it fails and does not change. -/
theorem create_cases (h : Host) (options : Options) :
    (∃ e, h.create options = (.error e, h)) ∨
      h.ready = true ∧ h.nextId < maxId ∧
        h.create options = (.ok (.created h.nextId), h.withView options) := by
  cases hready : h.ready with
  | false => exact .inl ⟨_, create_of_not_ready hready options⟩
  | true =>
      rcases Nat.lt_or_ge h.nextId maxId with hid | hid
      · exact .inr ⟨rfl, hid, create_of_lt hready hid options⟩
      · exact .inl ⟨_, create_of_exhausted hready hid options⟩

/-! ## Refusals -/

/-- Why a host refuses an action. -/
inductive Refused (h : Host) : Action → Error → Prop where
  | start (notReady : h.ready = false) : Refused h .start .unsupportedPlatform
  | pump (notReady : h.ready = false) : Refused h .pump .notReady
  | create (options : Options) (notReady : h.ready = false) :
      Refused h (.create options) .notReady
  | exhausted (options : Options) (ready : h.ready = true) (exhausted : maxId ≤ h.nextId) :
      Refused h (.create options) .idsExhausted
  | unknown {id : ViewId} {action : ViewAction} (needsConfig : action.needsConfig = true)
      (unknown : h.configs.has id = false) : Refused h (.onView id action) (.noView id)
  | notJson (id : ViewId) {text : String} {fault : Json.Fault}
      (notJson : Json.parse text = .error fault) :
      Refused h (.onView id (.send text)) (.badMessage (fault.message text.toList))
  | blocked (id : ViewId) {url : String} (blocked : isLoadable (trim url) = false) :
      Refused h (.onView id (.loadUrl url)) .blockedUrl

variable {files : File.Disk} {h : Host}

/-- What is refused has an error and leaves the host alone. -/
theorem Refused.perform_eq {action : Action} {e : Error} (hrefused : Refused h action e) :
    h.perform files action = (.error e, h) := by
  cases hrefused with
  | start notReady =>
      rw [perform, start_eq, notReady]
      rfl
  | pump notReady =>
      rw [perform, pump_of_not_ready notReady]
      rfl
  | create options notReady => exact create_of_not_ready notReady options
  | exhausted options ready exhausted => exact create_of_exhausted ready exhausted options
  | @unknown id action needsConfig unknown =>
      have hunknown : h.config id = .error (.noView id) :=
        (h.config_eq_error_iff id _).mpr ⟨unknown, rfl⟩
      cases action with
      | install => simp only [perform, performOn, install, hunknown]
      | setScripts => simp only [perform, performOn, setScripts, hunknown]
      | getNspace =>
          rw [perform, performOn, getNspace, hunknown]
          rfl
      | setNspace => simp only [perform, performOn, setNspace, hunknown]
      | _ => cases needsConfig
  | notJson id notJson => simp only [perform, performOn, send, notJson]
  | blocked id blocked => simp only [perform, performOn, loadUrl, blocked, Bool.false_eq_true, if_false]

/-- An action on a view that is not refused has a reply. -/
theorem refused_or_replies_on (files : File.Disk) (h : Host) (id : ViewId) (action : ViewAction) :
    (∃ e, Refused h (.onView id action) e) ∨
      ∃ reply, (h.performOn files id action).1 = .ok reply := by
  -- four actions ask for the configuration of the view, and two look at what they are given
  cases action with
  | install | setScripts | getNspace | setNspace =>
      cases hconfig : h.config id with
      | error e => exact .inl ⟨_, .unknown rfl ((h.config_eq_error_iff id e).mp hconfig).1⟩
      | ok config =>
          simp only [performOn, install, setScripts, getNspace, setNspace, hconfig]
          exact .inr ⟨_, rfl⟩
  | send text =>
      cases hparse : Json.parse text with
      | error fault => exact .inl ⟨_, .notJson id hparse⟩
      | ok message =>
          simp only [performOn, send, hparse]
          exact .inr ⟨_, rfl⟩
  | loadUrl url =>
      cases hload : isLoadable (trim url) with
      | false => exact .inl ⟨_, .blocked id hload⟩
      | true =>
          rw [performOn, loadUrl, if_pos hload]
          exact .inr ⟨_, rfl⟩
  | post | run | updateOrigins | removeScripts | loadHtml | reload | place | setVisible | close
  | drop | listen => exact .inr ⟨_, rfl⟩

/-- An action that is not refused has a reply. -/
theorem refused_or_replies (files : File.Disk) (h : Host) (action : Action) :
    (∃ e, Refused h action e) ∨ ∃ reply, (h.perform files action).1 = .ok reply := by
  cases hready : h.ready with
  | false =>
      cases action with
      | start => exact .inl ⟨_, .start hready⟩
      | pump => exact .inl ⟨_, .pump hready⟩
      | create options => exact .inl ⟨_, .create options hready⟩
      | onView id action => exact refused_or_replies_on files h id action
  | true =>
      cases action with
      | start =>
          rw [perform, start_eq, hready]
          exact .inr ⟨_, rfl⟩
      | pump =>
          rw [perform, Host.pump, hready]
          cases h.hasPlatform <;> exact .inr ⟨_, rfl⟩
      | create options =>
          rcases Nat.lt_or_ge h.nextId maxId with hid | hid
          · rw [perform, create_of_lt hready hid]
            exact .inr ⟨_, rfl⟩
          · exact .inl ⟨_, .exhausted options hready hid⟩
      | onView id action => exact refused_or_replies_on files h id action

/-- An action has an error exactly when it is refused. -/
theorem fails_iff_refused (action : Action) (e : Error) :
    (h.perform files action).1 = .error e ↔ Refused h action e := by
  constructor
  · intro herror
    rcases refused_or_replies files h action with ⟨e', hrefused⟩ | ⟨reply, hreply⟩
    · rw [hrefused.perform_eq] at herror
      obtain rfl := Except.error.inj herror
      exact hrefused
    · rw [hreply] at herror
      cases herror
  · intro hrefused
    rw [hrefused.perform_eq]

/-- A host that fails to do something is the host that it was, in all that it keeps and in all that
waits in it, and it fails exactly where an action is refused.  Creating a view queues the one command
that creates it, and whatever else is done with a view queues one command to it or none; a command
comes after all those that are queued, and they stay as they are. -/
theorem failures_change_nothing (files : File.Disk) (h : Host) :
    (∀ action e, (h.perform files action).1 = .error e → (h.perform files action).2 = h) ∧
      (∀ action e, (h.perform files action).1 = .error e ↔ Refused h action e) ∧
      (∀ options reply, (h.perform files (.create options)).1 = .ok reply →
        reply = .created h.nextId ∧
          (h.perform files (.create options)).2.commands =
            h.commands.push (h.nextId, .create options)) ∧
      ∀ id action reply, (h.perform files (.onView id action)).1 = .ok reply →
        ∃ command? : Option Command,
          (h.perform files (.onView id action)).2.commands.toList =
            h.commands.toList ++ command?.toList.map fun command => (id, command) := by
  refine ⟨?_, fails_iff_refused, ?_, ?_⟩
  · intro action e herror
    rw [((fails_iff_refused action e).mp herror).perform_eq]
  · intro options reply hreply
    rcases h.create_cases options with ⟨e, hfails⟩ | ⟨-, -, hdoes⟩
    · rw [perform, hfails] at hreply
      cases hreply
    · rw [perform, hdoes] at hreply ⊢
      exact ⟨(Except.ok.inj hreply).symm, rfl⟩
  · intro id action reply hreply
    rcases performOn_cases files id (h.config id) action with ⟨e, hfails⟩ | ⟨reply, c, -, hdoes⟩
    · rw [perform, hfails h rfl] at hreply
      cases hreply
    · rw [perform, hdoes h rfl]
      exact ⟨c.command, h.commands_change id c⟩

end PageBridge.Host
