import Adjudication.Script.World

/-!
# Playing a script

A script is played as a routine whose handlers are blocks. Blocks by name and evaluations of their own are
followed to a depth; a script that goes deeper has no ending there, and none of its ending depends on how
much deeper it might have gone.
-/

namespace Adjudication.Script

/-- A routine whose handlers are blocks; `none` is a script that goes too deep. -/
abbrev Play := Routine String Mishap Block Vars Entry Option

/-- What the steps of a script call on: blocks by name and evaluations of their own. -/
structure Host where
  block : Option Mishap → String → Play Unit
  evaluation : Run → Vars → Option (Result × List Entry × Vars)

namespace Play

def vars : Play Vars := Routine.state

/-- Writes down a step on the decision: how it stopped, if it did, and what it left. -/
def note {α : Type} (name : String) (outcome : Except (Interrupt Mishap) α) : Play Unit := do
  let stop := match outcome with
    | .ok _ => none
    | .error stop => some stop
  let d ← Routine.decision
  Routine.write (.step name stop d.verdict (← Routine.attempts) d.handlers.size)

def noted {α : Type} (name : String) (x : Play α) : Play α := do
  let outcome ← Routine.observe x
  note name outcome
  Routine.resumeFrom outcome

/-- Plays a part so many times. -/
def times : Nat → Play Unit → Play Unit
  | 0, _ => pure ()
  | n + 1, x => do
    x
    times n x

def close : Play Empty := noted "end" Routine.decide

def tooDeep {α : Type} : Play α := Routine.act fun _ => none

end Play

def Reading.value (what : Reading) (attempts : Nat) (d : Decision String Block) : Int64 :=
  match what with
  | .attempts => Int64.ofNat attempts
  | .handlers => Int64.ofNat d.handlers.size
  | .decided => if d.verdict.isDecided then 1 else 0
  | .verdict => match d.verdict.toBool? with
    | some true => 1
    | some false => 0
    | none => -1

open Play

mutual

/-- Plays a step; `received` is the failure being handled. -/
def Step.play (host : Host) (received : Option Mishap) : Step → Play Unit
  | .acceptIf p => noted "accept_if" (Routine.acceptIf p.ask)
  | .rejectIf p => noted "reject_if" (Routine.rejectIf p.ask)
  | .acceptIfThen p effect => noted "accept_if_then" (Routine.acceptIfThen p.ask (Action.performAll effect))
  | .rejectIfThen p effect => noted "reject_if_then" (Routine.rejectIfThen p.ask (Action.performAll effect))
  | .decideOn p => Routine.never (noted "decide_on" (Routine.decideOn p.ask))
  | .decideOnThen p onAccept onReject => Routine.never (noted "decide_on_then"
      (Routine.decideOnThen p.ask (Action.performAll onAccept) (Action.performAll onReject)))
  | .accept => Routine.never (noted "accept" Routine.accept)
  | .reject => Routine.never (noted "reject" Routine.reject)
  | .acceptThen effect => Routine.never (noted "accept_then" (Routine.acceptThen (Action.performAll effect)))
  | .rejectThen effect => Routine.never (noted "reject_then" (Routine.rejectThen (Action.performAll effect)))
  | .decide => Routine.never (noted "decide" Routine.decide)
  | .setAccept => noted "set_accept" Routine.setAccept
  | .setReject => noted "set_reject" Routine.setReject
  | .raise kind payload => do
    let n := payload.value (← vars)
    noted "raise" (Routine.raise ⟨kind, n⟩)
  | .fail kind payload => do
    let n := payload.value (← vars)
    noted "try" (Routine.raise ⟨kind, n⟩)
  | .reraise more => do
    let n := more.value (← vars)
    match received with
    | some mishap => noted "reraise" (Routine.raise { mishap with payload := mishap.payload + n })
    | none => Routine.never (noted "reraise" Routine.decide)
  | .undefined => noted "undefined" (.stop (.failed .undefined))
  | .onErr kind body => noted "on_err" (Routine.onErr kind body)
  | .onUndefined body => noted "on_undefined" (Routine.onUndefined body)
  | .say tag => Routine.write (.said tag)
  | .set name value => Routine.modifyState fun vars => vars.set name (value.value vars)
  | .add name value => Routine.modifyState fun vars => vars.add name (value.value vars)
  | .handles slots => do
    let table ← Routine.handlers
    Routine.write (.handles (slots.map table.handles) table.isEmpty)
  | .load name what => do
    let n := what.value (← Routine.attempts) (← Routine.decision)
    Routine.modifyState (·.set name n)
  | .describe => do
    let d ← Routine.decision
    Routine.write (.description (d.describe (← Routine.attempts) id))
  | .branch p yes no => do
    if p.holds (← vars) then yes.play host received else no.play host received
  | .loop count body => do
    let n := count.value (← vars)
    times n.toNatClampNeg (body.play host received)
  | .swallow body => do
    let outcome ← Routine.observe (body.play host received)
    note "swallow" outcome
  | .nested form ceiling routine raises => do
    let result ← Routine.act (host.evaluation ⟨form, ceiling, routine⟩)
    Routine.write (.nested result)
    match result with
    | .error (.ended (.raised mishap)) => if raises then Routine.raise mishap else pure ()
    | _ => pure ()

/-- Plays the steps of a block in order, up to the first that stops. -/
def Block.play (host : Host) (received : Option Mishap) : Block → Play Unit
  | .done => pure ()
  | .next step rest => do
    step.play host received
    rest.play host received
  | .named name => host.block received name

end

/-- What a handler does about a fault: writes it down, plays its block, and decides unless it stopped. -/
def Block.respond (host : Host) (body : Block) : Fault Mishap → Play Empty
  | .raised mishap => do
    Routine.write (.handler mishap)
    Routine.modifyState (·.set "payload" mishap.payload)
    body.play host (some mishap)
    close
  | .undefined => do
    Routine.write .handlerUndefined
    body.play host none
    close

/-- A routine: plays its block and decides unless it stopped. -/
def Block.routine (host : Host) (body : Block) : Play Empty := do
  body.play host none
  close

/-- The evaluator with the given ceiling, or else the default one. -/
def evaluatorOf (ceiling : Option UInt32) : Except ConfigError Evaluator :=
  match ceiling with
  | some n => Evaluator.ofConfig ⟨n⟩
  | none => .ok default

/-- The callback for a verdict: writes down that it was called and answers with its word. -/
def answerInWords (granted : Bool) : Act Vars Entry Option Answer := fun vars =>
  some (.word granted, [.callback granted], vars)

def truth (ended : Except (DecisionError Mishap) Bool × World) : Except (DecisionError Mishap) Answer × World :=
  (ended.1.map Answer.boolean, ended.2)

/-- Asks for an evaluation, unless the evaluator for it cannot be set up. -/
def Form.ask (form : Form) (host : Host) (ceiling : Option UInt32) (routine : Play Empty) (w : World) :
    Except ConfigError (Option (Except (DecisionError Mishap) Answer × World)) := do
  let respond := Block.respond host
  match form with
  | .evaluate => return (← evaluatorOf ceiling).evaluate respond (answerInWords true) (answerInWords false) routine w
  | .evaluateByDefault => return makeDecision respond (answerInWords true) (answerInWords false) routine w
  | .decide => return truth <$> (← evaluatorOf ceiling).decide respond routine w
  | .decideByDefault => return truth <$> Adjudication.decide respond routine w

def Run.perform (host : Host) (run : Run) (w : World) : Option (Result × World) :=
  match run.form.ask host run.ceiling (run.routine.routine host) w with
  | .error e => some (.error (.refused e), w)
  | .ok ended => do
    let (result, w) ← ended
    pure (result.mapError RunError.ended, w)

def Host.ofDepth (definitions : Definitions) : Nat → Host
  | 0 => ⟨fun _ _ => tooDeep, fun _ _ => none⟩
  | depth + 1 =>
    let host := ofDepth definitions depth
    { block := fun received name =>
        match definitions.lookup name with
        | some body => body.play host received
        | none => pure ()
      evaluation := fun run vars => do
        let (result, w) ← run.perform host { state := vars }
        pure (result, w.trace, w.state) }

end Adjudication.Script
