import PageBridge.Proofs.Bridge.Run
import PageBridge.Proofs.Installation.KeySecrecy

/-!
# Runs of a bridge with other keys

Two runs of a bridge, with the same actions but for the keys of their installations and the postings
that come in, make the same calls into the page world when the engine has isolated worlds.
-/

namespace PageBridge.Bridge

open Installation (pageCalls)

/-- Two actions that are the same but for an invoke key or for what is posted to the bridge. -/
inductive Action.SameButKey : Action → Action → Prop where
  | refl (action : Action) : SameButKey action action
  | manage {action action' : Installation.Action} (same : action.SameButKey action') :
      SameButKey (.manage action) (.manage action')
  | posted (posting posting' : Posting) :
      SameButKey (.handle (.posted posting)) (.handle (.posted posting'))

/-- What is passed on to the installation differs in the keys only, too. -/
theorem forall₂_managed {actions actions' : List Action}
    (h : List.Forall₂ Action.SameButKey actions actions') :
    List.Forall₂ Installation.Action.SameButKey (actions.filterMap Action.managed?)
      (actions'.filterMap Action.managed?) := by
  induction h with
  | nil => exact .nil
  | @cons action action' _ _ hab _ ih =>
      cases hab with
      | refl =>
          cases hm : action.managed? with
          | none =>
              rw [List.filterMap_cons_none hm, List.filterMap_cons_none hm]
              exact ih
          | some managed =>
              rw [List.filterMap_cons_some hm, List.filterMap_cons_some hm]
              exact .cons (.refl managed) ih
      | manage same => exact .cons same ih
      | posted posting posting' => exact ih

/-- On an engine with isolated worlds, nothing that reaches the page world depends on the invoke
keys, in runs of an installation and in runs of a bridge. -/
theorem pageCalls_eq_of_sameButKey :
    (∀ actions actions' : List Installation.Action,
      List.Forall₂ Installation.Action.SameButKey actions actions' →
        pageCalls ((Installation.vacant (World.home true)).run actions').2 =
          pageCalls ((Installation.vacant (World.home true)).run actions).2) ∧
      ∀ actions actions' : List Action, List.Forall₂ Action.SameButKey actions actions' →
        pageCalls (((fresh (World.home true)).run actions').2.filterMap Effect.call?) =
          pageCalls (((fresh (World.home true)).run actions).2.filterMap Effect.call?) := by
  have hapart : World.home true ≠ .page := by decide
  have hsame : Installation.SameToPage (.vacant (World.home true)) (.vacant (World.home true)) :=
    .refl hapart
  constructor
  · intro actions actions' h
    exact hsame.run h
  · intro actions actions' h
    rw [calls_run, calls_run]
    exact hsame.run (forall₂_managed h)

/-- An installation, a message each way and an evaluation, under a key and under another one that
looks like a placeholder and closes a literal. -/
theorem pageCalls_eq_two_keys :
    let loader := Script.Store.bootstrap.load .empty
    let request : Installation.Request := ⟨"qt", ["*"], "k1", none, [⟨":/app/a.js", true⟩]⟩
    let posting (key : String) : Posting :=
      ⟨handlerName, Envelope.written key "qt" "1", ⟨true, none, none⟩⟩
    let actions (key : String) : List Action :=
      [.manage (.install loader { request with invokeKey := key }), .send .null,
        .handle (.posted (posting key)), .run "document.title", .manage (.replaceScripts [])]
    List.Forall₂ Action.SameButKey (actions "k1") (actions "');%NS%") ∧
      pageCalls (((fresh (World.home true)).run (actions "');%NS%")).2.filterMap Effect.call?) =
        pageCalls (((fresh (World.home true)).run (actions "k1")).2.filterMap Effect.call?) := by
  intro loader request posting actions
  have hblank : Text.blank "');%NS%" = Text.blank request.invokeKey := by decide
  have hinstall := Installation.Action.SameButKey.install
    (Script.Store.serves_bootstrap .empty) request hblank
  have hactions : List.Forall₂ Action.SameButKey (actions "k1") (actions "');%NS%") :=
    .cons (.manage hinstall) (.cons (.refl _) (.cons (.posted _ _) (.cons (.refl _)
      (.cons (.refl _) .nil))))
  exact ⟨hactions, pageCalls_eq_of_sameButKey.2 _ _ hactions⟩

end PageBridge.Bridge
