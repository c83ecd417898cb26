import PageBridge.Proofs.Bridge.Acceptance
import PageBridge.Proofs.Installation.Marks
import PageBridge.Proofs.Json.RoundTrip

/-!
# Messages from the channel to the page

A message of the channel is a JSON value.  It is written as a JSON text, which becomes a literal of
the script that delivers it, so that it is escaped twice.  `send_reads_back` says that both are
undone on the other side: the script is one evaluation in the world of the handler, it has the shape
of a delivery and nothing else in it, and what its last literal denotes is the text of the message.
-/

namespace PageBridge.Bridge

open PageBridge.Json (Value)

/-- After every run, sending a message changes nothing in the bridge.  Without a bridge installed it
has no effect.  Otherwise its one effect is an evaluation in the world in which the handler is
registered, of a delivery with the marks of the session and the text of the message in its literals,
and as far as the reader goes this text is read back as the message. -/
theorem send_reads_back (home : World) (actions : List Action) {message : Value}
    (hplain : message.isPlain = true) :
    let b := ((fresh home).run actions).1
    let engine := Engine.empty.replay (((fresh home).run actions).2.filterMap Effect.call?)
    let session := b.installation.session
    (session.installed = false → b.effects (.send message) = []) ∧
      (session.installed = true →
        ∃ world source text,
          engine.handlers = [(handlerName, world)] ∧
          b.effects (.send message) = [.call (.evaluate source world none)] ∧
          world.deliverySkeleton.read? source =
            some [session.nspace, session.invokeKey, text] ∧
          (message.depth ≤ Json.depthLimit → Json.parse text = .ok message)) ∧
      b.after (.send message) = b := by
  intro b engine session
  have hstep : Installation.InStep b.installation engine := inStep_run_fresh home actions
  have heffects : b.effects (.send message) =
      (b.installation.postCalls message.render).map .call := rfl
  refine ⟨?_, ?_, rfl⟩
  · intro hnot
    rw [heffects, Installation.postCalls, if_neg (by rw [hnot]; exact Bool.false_ne_true)]
    rfl
  · intro hinst
    have hlisten : b.installation.listening = true := (listening_run_fresh home actions).trans hinst
    refine ⟨b.installation.home, b.installation.home.delivery
      (Text.Literal.escapeText message.render) session.nspace session.invokeKey, message.render,
      ?_, ?_, World.read?_delivery _ _ _ _, Json.parse_render hplain⟩
    · rw [hstep.handlers_eq, hlisten, if_pos rfl]
    · rw [heffects, Installation.postCalls, if_pos hinst]
      rfl

/-- A message with every kind of value in it, whose texts have quotes of both kinds, a backslash and a
line end, and whose numbers are the least and the greatest. -/
theorem send_reads_back_escapes :
    let message : Value := .object
      [("it's", .array [.null, .bool true, .object [], .string "\"\\\n'"]),
        ("n", .array [.number (.int (-9223372036854775808)),
          .number (.int 18446744073709551615)])]
    let plan : Installation.Plan := ⟨"qt", ["*"], "k'", none, "", "", []⟩
    let b := ((fresh (.home true)).run [.manage (.apply plan)]).1
    message.isPlain = true ∧ message.depth ≤ Json.depthLimit ∧
      ∃ world source text, b.effects (.send message) = [.call (.evaluate source world none)] ∧
        world.deliverySkeleton.read? source = some ["qt", "k'", text] ∧
        Json.parse text = .ok message := by
  intro message plan b
  have hplain : message.isPlain = true := by decide +kernel
  have hdepth : message.depth ≤ Json.depthLimit := by decide +kernel
  obtain ⟨-, hsent, -⟩ := send_reads_back (.home true) [.manage (.apply plan)] hplain
  obtain ⟨world, source, text, -, heffects, hread, hparse⟩ := hsent rfl
  exact ⟨hplain, hdepth, world, source, text, heffects, hread, hparse hdepth⟩

end PageBridge.Bridge
