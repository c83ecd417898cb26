import Mathlib.Tactic.SplitIfs
import PageBridge.Proofs.Host.Pump
import PageBridge.Proofs.View.Results

/-!
# The buffers of all views

The bridges of all views write to the same buffers, in whatever order things happen to them.  An
accepted message is written twice, to the buffer of messages by the bridge and to that of channel texts
by its channel.  `Fleet` has the views of an application with their buffers.  `Holds` says that each
buffer holds the first of what was observed since the last flush, and `Holds.step` that this stays so,
whatever happens to whichever view.  It goes through because every bridge has a channel, so that the
two buffers are filled by the same messages and are full at the same moment.
-/

namespace PageBridge

namespace Effect

/-- The change of a property that an effect tells of. -/
def changed? : Effect → Option Navigation.Change
  | changed change => some change
  | _ => none

/-- The outcome of an evaluation is no change of a property. -/
theorem changed?_run (completion : Completion) (outcome : Outcome) :
    (completion.run outcome).changed? = none :=
  see_run (fun _ _ => rfl) (fun _ _ => rfl) completion outcome

/-- Whoever looks for changes sees all of them. -/
theorem filterMap_changed?_map_changed (changes : List Navigation.Change) :
    (changes.map Effect.changed).filterMap changed? = changes := by
  rw [List.filterMap_map]
  exact List.filterMap_some

end Effect

namespace Bridge

/-! ## What an action tells -/

/-- The navigation step that an action has the bridge handle. -/
def Action.navigated? : Action → Option Navigation.Step
  | handle (.navigated step) => some step
  | _ => none

/-- The result that an action owes to the owner. -/
def Action.reported? : Action → Option (String × String)
  | handle (.evaluated .report outcome) => some outcome.texts
  | _ => none

/-- What is left of an action when its view has no bridge. -/
def Action.orphanEffect? : Action → Option Effect
  | handle event => event.orphanEffect?
  | _ => none

/-- A bridge tells of the changes that a navigation step makes, and of no others. -/
theorem changed_effects (b : Bridge) (action : Action) :
    (b.effects action).filterMap Effect.changed? =
      action.navigated?.elim [] b.navigation.changes := by
  cases action with
  | manage _ | send _ | run _ => exact Effect.filterMap_map_call (fun _ => rfl) _
  | setChannel => rfl
  | handle event =>
      cases event with
      | navigated step => exact Effect.filterMap_changed?_map_changed _
      | evaluated completion outcome =>
          exact List.filterMap_cons_none (Effect.changed?_run completion outcome)
      | posted posting =>
          exact filterMap_eventEffects_posted (fun _ => rfl) (fun _ => rfl) b posting

/-- A bridge tells the result of an evaluation when it comes, and no other. -/
theorem result_effects (b : Bridge) (action : Action) :
    (b.effects action).filterMap Effect.result? = action.reported?.toList := by
  cases action with
  | manage _ | send _ | run _ => exact Effect.filterMap_map_call (fun _ => rfl) _
  | setChannel => rfl
  | handle event =>
      cases event with
      | navigated step => exact Effect.filterMap_map_changed (fun _ => rfl) _
      | evaluated completion outcome =>
          cases completion with
          | report => cases outcome <;> rfl
          | caller label => rfl
      | posted posting =>
          exact filterMap_eventEffects_posted (fun _ => rfl) (fun _ => rfl) b posting

/-- Without a bridge nothing is told but outcomes of evaluations. -/
theorem filterMap_orphanEffect? {α : Type} {see : Effect → Option α}
    (h : ∀ (completion : Completion) (outcome : Outcome), see (completion.run outcome) = none)
    (action : Action) : action.orphanEffect?.toList.filterMap see = [] := by
  cases action with
  | manage _ | send _ | run _ | setChannel => rfl
  | handle event =>
      cases event with
      | posted _ | navigated _ => rfl
      | evaluated completion outcome => exact List.filterMap_cons_none (h completion outcome)

/-- A result is told though its view is gone, and a caller is told in another way. -/
theorem result_orphanEffect? (action : Action) :
    action.orphanEffect?.toList.filterMap Effect.result? = action.reported?.toList := by
  cases action with
  | manage _ | send _ | run _ | setChannel => rfl
  | handle event =>
      cases event with
      | posted _ | navigated _ => rfl
      | evaluated completion outcome =>
          cases completion with
          | report => cases outcome <;> rfl
          | caller label => rfl

end Bridge

namespace Host

/-! ## Buffers -/

/-- A buffer with the first of some items holds the first of all when more are added. -/
theorem toList_foldl_pushCapped {α : Type} {buffer : Array α} {seen : List α}
    (h : buffer.toList = seen.take maxPending) (items : List α) :
    (items.foldl pushCapped buffer).toList = (seen ++ items).take maxPending := by
  induction items generalizing buffer seen with
  | nil => rw [List.foldl_nil, h, List.append_nil]
  | cons item items ih =>
      have hsize : buffer.size = min maxPending seen.length := by
        rw [← Array.length_toList, h, List.length_take]
      have hpush : (pushCapped buffer item).toList = (seen ++ [item]).take maxPending := by
        rw [pushCapped]
        by_cases hfull : buffer.size < maxPending
        · -- nothing was dropped yet
          have hroom : (seen ++ [item]).length ≤ maxPending := by
            rw [List.length_append, List.length_singleton]
            omega
          rw [if_pos hfull, Array.toList_push, h, List.take_of_length_le hroom,
            List.take_of_length_le (by omega)]
        · rw [if_neg hfull, h, List.take_append_of_le_length (by omega)]
      rw [List.foldl_cons, ih hpush, List.append_assoc, List.singleton_append]

/-- What can be seen of an effect, with the number of its view. -/
def ofView {α : Type} (see : Effect → Option α) : ViewId × Effect → Option (ViewId × α)
  | (id, effect) => (see effect).map fun seen => (id, seen)

/-- What is seen of the effects of one view is seen with its number. -/
theorem filterMap_ofView_map {α : Type} (see : Effect → Option α) (id : ViewId)
    (effects : List Effect) :
    (effects.map fun effect => (id, effect)).filterMap (ofView see) =
      (effects.filterMap see).map fun seen => (id, seen) := by
  rw [List.filterMap_map, List.map_filterMap]
  rfl

namespace Pending

/-- Effects come to one buffer in their order, each as what that buffer sees of it. -/
theorem recordAll_eq_foldl {α β : Type} (buffer : Pending → α) (see : Effect → Option β)
    (push : α → ViewId × β → α)
    (h : ∀ p id effect, buffer (record p id effect) =
      (see effect).elim (buffer p) fun seen => push (buffer p) (id, seen))
    (p : Pending) (effects : List (ViewId × Effect)) :
    buffer (p.recordAll effects) = (effects.filterMap (ofView see)).foldl push (buffer p) := by
  induction effects generalizing p with
  | nil => rfl
  | cons entry effects ih =>
      obtain ⟨id, effect⟩ := entry
      rw [recordAll_cons, ih, h]
      cases hsee : see effect with
      | none => rw [List.filterMap_cons_none (by rw [ofView, hsee]; rfl), Option.elim_none]
      | some seen =>
          rw [List.filterMap_cons_some (by rw [ofView, hsee]; rfl), Option.elim_some,
            List.foldl_cons]

variable (p : Pending) (effects : List (ViewId × Effect))

/-- The buffer of messages takes the messages, while it has room. -/
theorem messages_recordAll :
    (p.recordAll effects).messages =
      (effects.filterMap (ofView Effect.received?)).foldl pushCapped p.messages :=
  recordAll_eq_foldl Pending.messages _ _ (fun _ _ effect => by cases effect <;> rfl) p effects

/-- The buffer of channel texts takes the text of each message that goes to a channel. -/
theorem channelTexts_recordAll :
    (p.recordAll effects).channelTexts =
      (effects.filterMap (ofView fun effect => effect.channel?.map Message.text)).foldl pushCapped
        p.channelTexts :=
  recordAll_eq_foldl Pending.channelTexts _ _ (fun _ _ effect => by cases effect <;> rfl) p effects

/-- The buffer of changes takes the changes of properties, while it has room. -/
theorem changes_recordAll :
    (p.recordAll effects).changes =
      (effects.filterMap (ofView Effect.changed?)).foldl pushCapped p.changes :=
  recordAll_eq_foldl Pending.changes _ _ (fun _ _ effect => by cases effect <;> rfl) p effects

/-- Results are taken without regard to how many there are. -/
theorem results_recordAll :
    (p.recordAll effects).results =
      (effects.filterMap (ofView Effect.result?)).foldl Array.push p.results :=
  recordAll_eq_foldl Pending.results _ _ (fun _ _ effect => by cases effect <;> rfl) p effects

end Pending

/-! ## Fleets -/

/-- The views of an application, with what waits for the next pump. -/
structure Fleet where
  views : Keyed ViewId Bridge
  pending : Pending

namespace Fleet

/-- An application without views. -/
def fresh : Fleet := ⟨[], .empty⟩

/-- What happens to the views: one is created or closed, its bridge is given something to do, or
everything that waits is flushed.  An engine event is something to do for a bridge; the outcome of an
evaluation is told though there is none. -/
inductive Action where
  | create (id : ViewId) (home : World)
  | act (id : ViewId) (action : Bridge.Action)
  | close (id : ViewId)
  | flush

/-- The bridge of a new view, which has its channel from the start. -/
def newBridge (home : World) : Bridge :=
  (Bridge.fresh home).after .setChannel

/-- The views after an action. -/
def viewsAfter (f : Fleet) : Action → Keyed ViewId Bridge
  | .create id home => f.views.set id (newBridge home)
  | .act id action => f.views.update id (·.after action)
  | .close id => f.views.erase id
  | .flush => f.views

/-- The effects of an action, each with the number of its view. -/
def effects (f : Fleet) : Action → List (ViewId × Effect)
  | .act id action =>
    ((f.views.get? id).elim action.orphanEffect?.toList (·.effects action)).map
      fun effect => (id, effect)
  | .close id =>
    ((f.views.get? id).elim [] (·.effects (.manage .uninstall))).map fun effect => (id, effect)
  | .create _ _ | .flush => []

/-- What waits after an action. -/
def pendingAfter (f : Fleet) : Action → Pending
  | .flush => f.pending.takeNotices.2
  | action => f.pending.recordAll (f.effects action)

/-- The views and what waits after an action. -/
def step (f : Fleet) (action : Action) : Fleet :=
  ⟨f.viewsAfter action, f.pendingAfter action⟩

/-- The views and what waits after actions. -/
def run (f : Fleet) (actions : List Action) : Fleet :=
  actions.foldl step f

/-! ## What is observed -/

/-- The messages that an action has accepted, as the bridge of its view stands before it. -/
def accepted (f : Fleet) : Action → List (ViewId × Message)
  | .act id action =>
    ((f.views.get? id).elim [] fun b =>
      action.posting?.toList.filterMap b.installation.accept?).map fun message => (id, message)
  | .create _ _ | .close _ | .flush => []

/-- The changes of properties that an action makes. -/
def changed (f : Fleet) : Action → List (ViewId × Navigation.Change)
  | .act id action =>
    ((f.views.get? id).elim [] fun b => action.navigated?.elim [] b.navigation.changes).map
      fun change => (id, change)
  | .create _ _ | .close _ | .flush => []

/-- The results of evaluations that an action brings, whether their view still has a bridge or not. -/
def reported (_ : Fleet) : Action → List (ViewId × String × String)
  | .act id action => action.reported?.toList.map fun result => (id, result)
  | .create _ _ | .close _ | .flush => []

/-- What was observed since the last flush, when there is one more action. -/
def observe {α : Type} (see : Fleet → Action → List α) (f : Fleet) (seen : List α) :
    Action → List α
  | .flush => []
  | action => seen ++ see f action

/-- What is observed in actions since the last flush, `seen` being what was observed before. -/
def sinceFlush {α : Type} (see : Fleet → Action → List α) :
    Fleet → List α → List Action → List α
  | _, seen, [] => seen
  | f, seen, action :: actions => sinceFlush see (f.step action) (f.observe see seen action) actions

/-! ## Effects of a fleet -/

/-- What is seen of the effects of an action is what is seen of those of the bridge, as long as nothing
is seen of closing it. -/
theorem filterMap_effects {α : Type} {see : Effect → Option α}
    (hcall : ∀ call, see (.call call) = none) (f : Fleet) (action : Action) :
    (f.effects action).filterMap (ofView see) =
      match action with
      | .act id action =>
        ((f.views.get? id).elim (action.orphanEffect?.toList.filterMap see) fun b =>
          (b.effects action).filterMap see).map fun seen => (id, seen)
      | .create _ _ | .close _ | .flush => [] := by
  cases action with
  | create _ _ | flush => rfl
  | act id action =>
      dsimp only
      rw [effects, filterMap_ofView_map]
      cases f.views.get? id <;> rfl
  | close id =>
      rw [effects, filterMap_ofView_map]
      cases f.views.get? id with
      | none => rfl
      | some b =>
          have hnone : (b.effects (.manage .uninstall)).filterMap see = [] :=
            Effect.filterMap_map_call hcall _
          rw [Option.elim_some, hnone, List.map_nil]

/-- The messages among the effects are those that the bridge of the view accepts. -/
theorem received_effects (f : Fleet) (action : Action) :
    (f.effects action).filterMap (ofView Effect.received?) = f.accepted action := by
  rw [filterMap_effects fun _ => rfl]
  cases action with
  | create _ _ | close _ | flush => rfl
  | act id action =>
      simp only [accepted, Bridge.filterMap_orphanEffect? Effect.received?_run,
        Bridge.received_effects]

/-- The changes among the effects are those that the page of the view makes. -/
theorem changed_effects (f : Fleet) (action : Action) :
    (f.effects action).filterMap (ofView Effect.changed?) = f.changed action := by
  rw [filterMap_effects fun _ => rfl]
  cases action with
  | create _ _ | close _ | flush => rfl
  | act id action =>
      simp only [changed, Bridge.filterMap_orphanEffect? Effect.changed?_run, Bridge.changed_effects]

/-- The results are told by whichever bridge, or without one. -/
theorem result_effects (f : Fleet) (action : Action) :
    (f.effects action).filterMap (ofView Effect.result?) = f.reported action := by
  rw [filterMap_effects fun _ => rfl]
  cases action with
  | create _ _ | close _ | flush => rfl
  | act id action =>
      simp only [reported, Bridge.result_orphanEffect?, Bridge.result_effects]
      cases f.views.get? id <;> rfl

/-! ## Channels -/

/-- Every bridge has a channel. -/
def HaveChannels (f : Fleet) : Prop :=
  ∀ id b, f.views.get? id = some b → b.hasChannel = true

/-- What the channel of a view has of an accepted message. -/
def channelText : ViewId × Message → ViewId × String
  | (id, message) => (id, message.text)

/-- Channels have the messages that are accepted, when every bridge has one. -/
theorem channel_effects {f : Fleet} (h : f.HaveChannels) (action : Action) :
    (f.effects action).filterMap (ofView fun effect => effect.channel?.map Message.text) =
      (f.accepted action).map channelText := by
  rw [filterMap_effects fun _ => rfl]
  cases action with
  | create _ _ | close _ | flush => rfl
  | act id action =>
      dsimp only
      rw [accepted, List.map_map]
      cases hb : f.views.get? id with
      | none =>
          -- nobody has messages of a view without a bridge
          have hnone (completion : Completion) (outcome : Outcome) :
              (completion.run outcome).channel?.map Message.text = none := by
            rw [Effect.channel?_run, Option.map_none]
          rw [Option.elim_none, Option.elim_none, Bridge.filterMap_orphanEffect? hnone]
          rfl
      | some b =>
          have hchannel := Bridge.channel_effects b action
          rw [if_pos (h id b hb), Bridge.received_effects] at hchannel
          rw [Option.elim_some, Option.elim_some, ← List.map_filterMap, hchannel, List.map_map]
          rfl

/-- A bridge never loses its channel. -/
theorem hasChannel_after {b : Bridge} (h : b.hasChannel = true) (action : Bridge.Action) :
    (b.after action).hasChannel = true := by
  cases action with
  | handle event => rw [Bridge.after, Bridge.hasChannel_afterEvent, h]
  | setChannel => rfl
  | manage _ | send _ | run _ => exact h

/-- A bridge that is there after an action is a new one, or it was there before, as it is or before
something that it was given to do. -/
theorem exists_of_get?_viewsAfter {f : Fleet} {action : Action} {id : ViewId} {b : Bridge}
    (h : (f.viewsAfter action).get? id = some b) :
    (∃ home, b = newBridge home) ∨ f.views.get? id = some b ∨
      ∃ before done, f.views.get? id = some before ∧ b = before.after done := by
  cases action with
  | flush => exact .inr (.inl h)
  | create other home =>
      rw [viewsAfter, Keyed.get?_set] at h
      split_ifs at h
      · exact .inl ⟨home, (Option.some.inj h).symm⟩
      · exact .inr (.inl h)
  | close other =>
      rw [viewsAfter, Keyed.get?_erase] at h
      split_ifs at h
      exact .inr (.inl h)
  | act other action =>
      rw [viewsAfter, Keyed.get?_update] at h
      split_ifs at h
      · obtain ⟨before, hbefore, rfl⟩ := Option.map_eq_some_iff.mp h
        exact .inr (.inr ⟨before, action, hbefore, rfl⟩)
      · exact .inr (.inl h)

/-- A bridge keeps its channel, and a new one has one from the start. -/
theorem HaveChannels.step {f : Fleet} (h : f.HaveChannels) (action : Action) :
    (f.step action).HaveChannels := by
  intro id b hb
  obtain ⟨home, rfl⟩ | hb | ⟨before, done, hbefore, rfl⟩ := exists_of_get?_viewsAfter hb
  · rfl
  · exact h id b hb
  · exact hasChannel_after (h id before hbefore) done

/-! ## The buffers of a fleet -/

/-- The buffers hold the first of what was observed since the last flush, and all of the results. -/
structure Holds (f : Fleet) (messages : List (ViewId × Message))
    (changes : List (ViewId × Navigation.Change)) (results : List (ViewId × String × String)) :
    Prop where
  haveChannels : f.HaveChannels
  messages_eq : f.pending.messages.toList = messages.take maxPending
  channelTexts_eq : f.pending.channelTexts.toList = (messages.map channelText).take maxPending
  changes_eq : f.pending.changes.toList = changes.take maxPending
  results_eq : f.pending.results.toList = results

variable {f : Fleet} {messages : List (ViewId × Message)}
  {changes : List (ViewId × Navigation.Change)} {results : List (ViewId × String × String)}

/-- An application without views holds nothing, and nothing was observed. -/
theorem holds_fresh : fresh.Holds [] [] [] where
  haveChannels := fun _ _ h => nomatch h
  messages_eq := rfl
  channelTexts_eq := rfl
  changes_eq := rfl
  results_eq := rfl

/-- The effects of an action go to the buffers in the order in which they are observed. -/
theorem Holds.record (h : f.Holds messages changes results) (action : Action) :
    Holds ⟨f.viewsAfter action, f.pending.recordAll (f.effects action)⟩
      (messages ++ f.accepted action) (changes ++ f.changed action) (results ++ f.reported action) where
  haveChannels := h.haveChannels.step action
  messages_eq := by
    rw [Pending.messages_recordAll, received_effects]
    exact toList_foldl_pushCapped h.messages_eq _
  channelTexts_eq := by
    rw [Pending.channelTexts_recordAll, channel_effects h.haveChannels, List.map_append]
    exact toList_foldl_pushCapped h.channelTexts_eq _
  changes_eq := by
    rw [Pending.changes_recordAll, changed_effects]
    exact toList_foldl_pushCapped h.changes_eq _
  results_eq := by
    rw [Pending.results_recordAll, result_effects, ← h.results_eq]
    simp

/-- Whatever happens to whichever view, the buffers go on to hold what was observed. -/
theorem Holds.step (h : f.Holds messages changes results) (action : Action) :
    (f.step action).Holds (f.observe accepted messages action) (f.observe changed changes action)
      (f.observe reported results action) := by
  cases action with
  | create id home => exact h.record (.create id home)
  | act id action => exact h.record (.act id action)
  | close id => exact h.record (.close id)
  | flush => exact ⟨h.haveChannels, rfl, rfl, rfl, rfl⟩

/-- So it is along every history. -/
theorem Holds.run (h : f.Holds messages changes results) (actions : List Action) :
    (f.run actions).Holds (f.sinceFlush accepted messages actions)
      (f.sinceFlush changed changes actions) (f.sinceFlush reported results actions) := by
  induction actions generalizing f messages changes results with
  | nil => exact h
  | cons action actions ih => exact ih (h.step action)

/-- After every history of the views, whichever of them things happened to and in whatever order, the
channel texts are those of the messages, and both are the first that were accepted since the last flush.
The changes of properties are the first since then, too, and the results are all there. -/
theorem buffers_keep_step (actions : List Action) :
    let pending := (fresh.run actions).pending
    let messages := fresh.sinceFlush accepted [] actions
    pending.channelTexts.toList = pending.messages.toList.map channelText ∧
      pending.messages.toList = messages.take 10000 ∧
      pending.channelTexts.toList = (messages.map channelText).take 10000 ∧
      pending.changes.toList = (fresh.sinceFlush changed [] actions).take 10000 ∧
      pending.results.toList = fresh.sinceFlush reported [] actions := by
  intro pending messages
  have h := holds_fresh.run actions
  -- both buffers are cut off at the same message, as they have the same capacity
  refine ⟨?_, h.messages_eq, h.channelTexts_eq, h.changes_eq, h.results_eq⟩
  rw [h.messages_eq, List.map_take]
  exact h.channelTexts_eq

end Fleet

end Host

end PageBridge
