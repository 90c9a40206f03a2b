/-
# Clients of a session — functions that follow scripts are benign

In a session the functions of the client follow scripts of requests.  They reach the form through
the same interpreter, one level of nesting deeper, so what is asked of a caller in `Form/Client`
is here asked of the scripts:

    of every script                        no request sets options, messages or tiers
    of scripts that take over no outcome   no reply makes them fail

`callWith_benign` says that this is enough, at every depth.  A request that fails inside of a script
is one of its replies, so neither failing requests nor the bound on the nesting make a function
fail.
-/
import FormRules.Proofs.Session.Requests

namespace FormRules

open FormM World

/-! ## Requests that leave the setup alone -/

theorem World.sameSetup_listening : Listening SameSetup where
  refl := sameSetup_frame.refl
  trans := sameSetup_frame.trans
  noted w e _ := sameSetup_frame.noted w e
  aside form _ _ _ := congrArg Form.setup form
  changing _ _ _ setup := setup
  subscribing _ _ := rfl
  unsubscribing _ _ := rfl

namespace Session

/-- Carrying out a request keeps the setup if the functions of the client do. -/
theorem step_keepsSetup (call : Caller) (hcall : ∀ f args, Keeps SameSetup (call f args))
    (r : Request) (hr : r.LeavesSetup) : Keeps SameSetup (step call r) :=
  step_keeps sameSetup_listening (sameSetup_frame.validates hcall) (fun _ _ => rfl)
    (fun sets => absurd hr sets) fun _ name isError detail =>
      Form.setError_keeps sameSetup_frame (fun f args _ => hcall f args) name trivial isError detail

/-! ## Scripts -/

/-- A script that ends with an answer, whatever the replies. -/
def Script.Answers : Script → Prop
  | .answer _ => True
  | .fail _ => False
  | .request _ next => ∀ reply, (next reply).Answers

/-- Scripts that leave the setup alone, and answer where no outcome is handed over. -/
structure Behaviour.Orderly (behaviour : Behaviour) : Prop where
  requests : ∀ script n args, (behaviour script n args).Makes Request.LeavesSetup
  answers : ∀ script n args, ¬ args.IsOutcome → (behaviour script n args).Answers

theorem runIn_outcomeOf (m : FormM α) (w : World) :
    (outcomeOf m).runIn w = (.ok (m.runIn w).1, (m.runIn w).2) := rfl

theorem runScript_completes {perform : Request → FormM Reply} {script : Script}
    (hscript : script.Answers) : Completes (runScript perform script) := by
  induction script with
  | answer v => exact .pure v
  | fail f => exact hscript.elim
  | request r next ih =>
      exact .bind (fun w => ⟨_, _, runIn_outcomeOf (perform r) w⟩) fun reply =>
        ih reply (hscript reply)

/-- **Orderly scripts make benign functions**, however deeply their calls may be nested. -/
theorem callWith_benign {behaviour : Behaviour} (h : behaviour.Orderly) (depth : Nat) :
    (callWith behaviour (perform behaviour depth)).Benign where
  returns f args hargs w :=
    runScript_completes (h.answers f.script _ args hargs)
      ((w.countCall f).noted (.call f.role args))
  keepsSetup f _ _ :=
    callWith_keeps sameSetup_listening.toAside h.requests
      (perform_keeps sameSetup_listening.toAside sameSetup_frame.noted h.requests step_keepsSetup
        depth) f fun w => sameSetup_frame.noted w _

end Session

end FormRules
