import Adjudication.Proofs.Evaluation.BigStep
import Adjudication.Proofs.Evaluation.History
import Adjudication.Proofs.Evaluation.Registration
import Adjudication.Proofs.Script.Conclusion
import Adjudication.Proofs.Script.Kinds

/-!
# Scripts with other names for kinds

A script whose kinds of failures are given other names, different ones for different kinds, does what it did before
under the other names: part by part, since every part of it has an outcome with other names wherever it starts with
them (`Step.play_renames`), and then as a whole (`kinds_renamed`).
-/

namespace Adjudication

/-- The same decision with other names for kinds. None of its handlers describes a decision, unless `spelt`. -/
structure Decision.Renamed (f : String ↪ String) (spelt : Prop) (d d' : Decision String Script.Block) : Prop where
  same : d' = d.rename f
  plain : ∀ slot body, d.handlers.find? slot = some body → body.PlainUnless spelt

namespace Decision.Renamed

variable {f : String ↪ String} {spelt : Prop} {d d' : Decision String Script.Block}

theorem fresh : Decision.Renamed f spelt {} {} := ⟨rfl, nofun⟩

theorem stage (renamed : d.Renamed f spelt d') (v : Verdict) :
    Decision.Renamed f spelt { d with verdict := v } { d' with verdict := v } := by
  obtain ⟨rfl, plain⟩ := renamed
  exact ⟨rfl, plain⟩

theorem insert (renamed : d.Renamed f spelt d') (slot : Slot String) {handler : Script.Block}
    (plainly : handler.PlainUnless spelt) :
    Decision.Renamed f spelt { d with handlers := d.handlers.insert slot handler }
      { d' with handlers := d'.handlers.insert (slot.map f) (handler.rename f) } := by
  obtain ⟨rfl, plain⟩ := renamed
  constructor
  · exact congrArg (Decision.mk d.verdict)
      (HandlerTable.insert_map f (Script.Block.rename f) d.handlers slot handler).symm
  · intro other body found
    rw [HandlerTable.find?_insert] at found
    split at found
    · cases found
      exact plainly
    · exact plain other body found

theorem find? (renamed : d.Renamed f spelt d') (slot : Slot String) :
    d'.handlers.find? (slot.map f) = (d.handlers.find? slot).map (Script.Block.rename f) := by
  rw [renamed.same]
  exact HandlerTable.find?_map f (Script.Block.rename f) d.handlers slot

end Decision.Renamed

namespace Script

variable {f : String ↪ String} {spelt : Prop}

/-! ### What is written -/

/-- An entry with other names for kinds. Of a description, where one may be, only that it is there. -/
inductive Entry.Retold (f : String ↪ String) (spelt : Prop) : Entry → Entry → Prop where
  | renamed (entry : Entry) : Retold f spelt entry (entry.rename f)
  | described (here : spelt) (text text' : String) : Retold f spelt (.description text) (.description text')

abbrev Retells (f : String ↪ String) (spelt : Prop) : List Entry → List Entry → Prop :=
  List.Forall₂ (Entry.Retold f spelt)

theorem Entry.Retold.of_eq {entry entry' : Entry} (same : entry' = entry.rename f) : Retold f spelt entry entry' :=
  same ▸ .renamed entry

namespace Retells

variable {entries entries' : List Entry}

theorem renamed (entries : List Entry) : Retells f spelt entries (entries.map (Entry.rename f)) := by
  induction entries with
  | nil => exact .nil
  | cons entry entries ih => exact .cons (.renamed entry) ih

theorem eq_of_plain (same : Retells f False entries entries') : entries' = entries.map (Entry.rename f) := by
  refine eq_map_of_forall₂ same fun entry entry' first => ?_
  cases first with
  | renamed => rfl
  | described here => exact here.elim

end Retells

/-- The same variables, and a trace of the same entries with other names for kinds. -/
structure World.Renamed (f : String ↪ String) (spelt : Prop) (w w' : World) : Prop where
  state : w'.state = w.state
  history : Retells f spelt w.history w'.history

namespace World.Renamed

variable {w w' : World}

theorem fresh (vars : Vars) : World.Renamed f spelt { state := vars } { state := vars } := ⟨rfl, .nil⟩

theorem after {entries entries' : List Entry} (renamed : World.Renamed f spelt w w')
    (same : Retells f spelt entries entries') (vars : Vars) :
    World.Renamed f spelt (w.after entries vars) (w'.after entries' vars) :=
  ⟨rfl, List.rel_append (List.rel_reverse same) renamed.history⟩

theorem record (renamed : World.Renamed f spelt w w') (event : Event String) :
    World.Renamed f spelt (w.record event) (w'.record (event.map f)) := by
  unfold World.record
  rw [renamed.state]
  exact renamed.after (.renamed [.logged event]) w.state

theorem trace (renamed : World.Renamed f spelt w w') : Retells f spelt w.trace w'.trace :=
  List.rel_reverse renamed.history

end World.Renamed

/-! ### Parts of a routine -/

def renameOutcome {α β : Type} (f : String ↪ String) (value : α → β) :
    Except (Interrupt Mishap) α → Except (Interrupt Mishap) β
  | .ok a => .ok (value a)
  | .error reason => .error (reason.map (Mishap.rename f))

/-- What came of a part, and of the same part with other names for kinds. -/
structure Alike {α β : Type} (f : String ↪ String) (spelt : Prop) (value : α → β)
    (out : Except (Interrupt Mishap) α × Decision String Block × World)
    (out' : Except (Interrupt Mishap) β × Decision String Block × World) : Prop where
  outcome : out'.1 = renameOutcome f value out.1
  decision : out.2.1.Renamed f spelt out'.2.1
  world : World.Renamed f spelt out.2.2 out'.2.2

/-- The second part is the first with other names for kinds: in a decision and a world with other names it comes to an
end just if the first does, and then alike. -/
def Play.Renames {α β : Type} (f : String ↪ String) (spelt : Prop) (value : α → β) (x : Play α) (y : Play β) : Prop :=
  ∀ n d d' w w', d.Renamed f spelt d' → World.Renamed f spelt w w' →
    Option.Rel (Alike f spelt value) (x.run n d w) (y.run n d' w')

namespace Play.Renames

variable {α β γ δ : Type} {value : α → β}

theorem done (a : α) : Renames f spelt value (.done a) (.done (value a)) :=
  fun _ _ _ _ _ decision world => .some ⟨rfl, decision, world⟩

theorem unit : Renames f spelt (id : Unit → Unit) (pure ()) (pure ()) := done ()

theorem stop (reason : Interrupt Mishap) :
    Renames f spelt value (.stop reason) (.stop (reason.map (Mishap.rename f))) :=
  fun _ _ _ _ _ decision world => .some ⟨rfl, decision, world⟩

theorem bind {value' : γ → δ} {x : Play α} {y : Play β} {next : α → Play γ} {next' : β → Play δ}
    (first : Renames f spelt value x y) (rest : ∀ a, Renames f spelt value' (next a) (next' (value a))) :
    Renames f spelt value' (x >>= next) (y >>= next') := by
  intro n d d' w w' decision world
  rw [Routine.run_bind, Routine.run_bind]
  refine rel_bind (first n d d' w w' decision world) ?_
  rintro ⟨reason | a, d₁, w₁⟩ ⟨_, d₂, w₂⟩ ⟨rfl, decision, world⟩
  · exact .some ⟨rfl, decision, world⟩
  · exact rest a n d₁ d₂ w₁ w₂ decision world

theorem observe {x : Play α} {y : Play β} (part : Renames f spelt value x y) :
    Renames f spelt (renameOutcome f value) x.observe y.observe := by
  intro n d d' w w' decision world
  rw [Routine.run_observe, Routine.run_observe]
  exact rel_map (part n d d' w w' decision world) fun _ _ out =>
    ⟨congrArg Except.ok out.outcome, out.decision, out.world⟩

theorem resumeFrom (outcome : Except (Interrupt Mishap) α) :
    Renames f spelt value (Routine.resumeFrom outcome) (Routine.resumeFrom (renameOutcome f value outcome)) := by
  cases outcome with
  | ok a => exact done a
  | error reason => exact stop reason

theorem never {x y : Play Empty} (part : Renames f spelt id x y) :
    Renames f spelt value (Routine.never x) (Routine.never y) :=
  part.bind fun nothing => nomatch nothing

theorem attempts : Renames f spelt id Routine.attempts Routine.attempts :=
  fun _ _ _ _ _ decision world => .some ⟨rfl, decision, world⟩

theorem handlers : Renames f spelt (HandlerTable.map f (Block.rename f)) Routine.handlers Routine.handlers :=
  fun _ _ _ _ _ decision world => .some ⟨congrArg (Except.ok ·.handlers) decision.same, decision, world⟩

theorem decision : Renames f spelt (Decision.rename f) Routine.decision Routine.decision :=
  fun _ _ _ _ _ decision world => .some ⟨congrArg Except.ok decision.same, decision, world⟩

theorem stage (accepted : Bool) : Renames f spelt id (Routine.stage accepted) (Routine.stage accepted) :=
  fun _ _ _ _ _ decision world => .some ⟨rfl, decision.stage (.ofBool accepted), world⟩

theorem register (slot : Slot String) {handler : Block} (plain : handler.PlainUnless spelt) :
    Renames f spelt id (Routine.register slot handler) (Routine.register (slot.map f) (handler.rename f)) := by
  intro n d d' w w' decision world
  refine .some ⟨rfl, decision.insert slot plain, ?_⟩
  have replaced : d'.handlers.handles (slot.map f) = d.handlers.handles slot := by
    rw [HandlerTable.handles_eq, HandlerTable.handles_eq, decision.find?, Option.isSome_map]
  simp only [HandlerTable.register_replaced, replaced]
  split
  · exact world.record (.replaced slot)
  · exact world

theorem act {g : Act Vars Entry Option α} {g' : Act Vars Entry Option β}
    (same : ∀ vars, Option.Rel
      (fun out out' => out'.1 = value out.1 ∧ Retells f spelt out.2.1 out'.2.1 ∧ out'.2.2 = out.2.2)
      (g vars) (g' vars)) :
    Renames f spelt value (Routine.act g) (Routine.act g') := by
  intro n d d' w w' decision world
  rw [Routine.run_act, Routine.run_act, world.state]
  refine rel_bind (same w.state) ?_
  rintro ⟨a, entries, vars⟩ ⟨b, entries', vars'⟩ ⟨given, written, left⟩
  cases given
  cases left
  exact .some ⟨rfl, decision, world.after written vars⟩

theorem write {entry entry' : Entry} (same : entry.Retold f spelt entry') :
    Renames f spelt id (Routine.write entry) (Routine.write entry') :=
  act fun _ => .some ⟨rfl, .cons same .nil, rfl⟩

theorem modifyState (change : Vars → Vars) :
    Renames f spelt id (Routine.modifyState change) (Routine.modifyState change) :=
  act fun _ => .some ⟨rfl, .nil, rfl⟩

theorem vars : Renames f spelt id Play.vars Play.vars := act fun _ => .some ⟨rfl, .nil, rfl⟩

theorem ask (p : Test) : Renames f spelt id (Routine.act p.ask) (Routine.act p.ask) :=
  act fun _ => .some ⟨rfl, .renamed [.predicate _], rfl⟩

theorem note (name : String) (outcome : Except (Interrupt Mishap) α) :
    Renames f spelt id (Play.note name outcome) (Play.note name (renameOutcome f value outcome)) := by
  refine decision.bind fun d => attempts.bind fun n => write (.of_eq ?_)
  cases outcome <;> simp [Entry.rename, renameOutcome, Decision.map]

theorem noted (name : String) {x : Play α} {y : Play β} (part : Renames f spelt value x y) :
    Renames f spelt value (Play.noted name x) (Play.noted name y) :=
  part.observe.bind fun outcome => (note name outcome).bind fun _ => resumeFrom outcome

theorem times {x y : Play Unit} (part : Renames f spelt id x y) (n : Nat) :
    Renames f spelt id (Play.times n x) (Play.times n y) := by
  induction n with
  | zero => exact done ()
  | succ n ih => exact part.bind fun _ => ih

theorem branch {x x' : Play α} {y y' : Play β} (holds : Bool) (yes : Renames f spelt value x y)
    (no : Renames f spelt value x' y') :
    Renames f spelt value (if holds then x else x') (if holds then y else y') := by
  cases holds with
  | true => exact yes
  | false => exact no

end Play.Renames

/-! ### Effects and primitives -/

/-- The second effect is the first with other names for kinds. -/
def EffectRenames (f : String ↪ String) (spelt : Prop) (effect effect' : Effect Mishap Vars Entry Option) : Prop :=
  ∀ vars, Option.Rel
    (fun out out' =>
      out'.1 = out.1.mapError (Mishap.rename f) ∧ Retells f spelt out.2.1 out'.2.1 ∧ out'.2.2 = out.2.2)
    (effect vars) (effect' vars)

theorem EffectRenames.none : EffectRenames f spelt Effect.none Effect.none := fun _ => .some ⟨rfl, .nil, rfl⟩

theorem Action.performEach_rename (vars : Vars) (actions : List Action) :
    Action.performEach vars (actions.map (Action.rename f)) =
      ((Action.performEach vars actions).1.mapError (Mishap.rename f),
        (Action.performEach vars actions).2.1.map (Entry.rename f), (Action.performEach vars actions).2.2) := by
  induction actions generalizing vars with
  | nil => rfl
  | cons action actions ih =>
    cases action with
    | fail kind payload => rfl
    | say tag | set name value | add name value => simp [performEach, Action.rename, perform, ih, Entry.rename]

theorem EffectRenames.performAll (actions : List Action) :
    EffectRenames f spelt (Action.performAll actions) (Action.performAll (actions.map (Action.rename f))) := by
  intro vars
  unfold Action.performAll
  rw [Action.performEach_rename]
  exact .some ⟨rfl, Retells.renamed (.effect :: _), rfl⟩

namespace Play.Renames

variable {effect effect' onReject onReject' : Effect Mishap Vars Entry Option}

theorem perform (same : EffectRenames f spelt effect effect') :
    Renames f spelt id (Routine.perform effect) (Routine.perform effect') := by
  refine (act same).bind fun outcome => ?_
  cases outcome with
  | ok => exact unit
  | error mishap => exact stop (.failed (.raised mishap))

theorem finalize (accepted : Bool) (same : EffectRenames f spelt effect effect') :
    Renames f spelt id (Routine.finalize accepted effect) (Routine.finalize accepted effect') :=
  (stage accepted).bind fun _ => (perform same).bind fun _ => stop .decided

theorem finalizeIf (p : Test) (accepted : Bool) (same : EffectRenames f spelt effect effect') :
    Renames f spelt id
      (Routine.act p.ask >>= fun holds => if holds then Routine.never (Routine.finalize accepted effect) else pure ())
      (Routine.act p.ask >>= fun holds => if holds then Routine.never (Routine.finalize accepted effect') else pure ()) :=
  (ask p).bind fun holds => branch holds (never (finalize accepted same)) unit

theorem decideOnThen (p : Test) (same : EffectRenames f spelt effect effect')
    (same' : EffectRenames f spelt onReject onReject') :
    Renames f spelt id (Routine.decideOnThen p.ask effect onReject) (Routine.decideOnThen p.ask effect' onReject') :=
  (ask p).bind fun holds => branch holds (finalize true same) (finalize false same')

theorem raise (mishap : Mishap) :
    Renames f spelt id (Routine.raise mishap : Play Unit) (Routine.raise (mishap.rename f)) :=
  stop (.failed (.raised mishap))

theorem close : Renames f spelt id Play.close Play.close := noted "end" (stop .decided)

end Play.Renames

/-! ### Steps and blocks -/

/-- The second host does under other names for kinds what the first one does. -/
structure Host.Renames (f : String ↪ String) (spelt : Prop) (host host' : Host) : Prop where
  block : ∀ received name,
    Play.Renames f spelt id (host.block received name) (host'.block (received.map (Mishap.rename f)) name)
  evaluation : ∀ run vars, run.routine.PlainUnless spelt → Option.Rel
    (fun out out' =>
      out'.1 = out.1.mapError (RunError.rename f) ∧ Retells f spelt out.2.1 out'.2.1 ∧ out'.2.2 = out.2.2)
    (host.evaluation run vars) (host'.evaluation (run.rename f) vars)

theorem Reading.value_rename (what : Reading) (n : Nat) (d : Decision String Block) :
    what.value n (d.rename f) = what.value n d := by
  cases what with
  | handlers => exact congrArg Int64.ofNat (HandlerTable.size_map f (Block.rename f) d.handlers)
  | attempts | decided | verdict => rfl

section

variable {host host' : Host} (hosts : host.Renames f spelt host')
include hosts

open Play.Renames

mutual

theorem Step.play_renames (received : Option Mishap) : (step : Step) → step.PlainUnless spelt →
    Play.Renames f spelt id (step.play host received) ((step.rename f).play host' (received.map (Mishap.rename f)))
  | .acceptIf p, _ => noted "accept_if" (finalizeIf p true .none)
  | .rejectIf p, _ => noted "reject_if" (finalizeIf p false .none)
  | .acceptIfThen p effect, _ => noted "accept_if_then" (finalizeIf p true (.performAll effect))
  | .rejectIfThen p effect, _ => noted "reject_if_then" (finalizeIf p false (.performAll effect))
  | .decideOn p, _ => never (noted "decide_on" (decideOnThen p .none .none))
  | .decideOnThen p onAccept onReject, _ =>
    never (noted "decide_on_then" (decideOnThen p (.performAll onAccept) (.performAll onReject)))
  | .accept, _ => never (noted "accept" (finalize true .none))
  | .reject, _ => never (noted "reject" (finalize false .none))
  | .acceptThen effect, _ => never (noted "accept_then" (finalize true (.performAll effect)))
  | .rejectThen effect, _ => never (noted "reject_then" (finalize false (.performAll effect)))
  | .decide, _ => never (noted "decide" (stop .decided))
  | .setAccept, _ => noted "set_accept" (stage true)
  | .setReject, _ => noted "set_reject" (stage false)
  | .raise kind payload, _ => vars.bind fun values => noted "raise" (raise ⟨kind, payload.value values⟩)
  | .fail kind payload, _ => vars.bind fun values => noted "try" (raise ⟨kind, payload.value values⟩)
  | .reraise more, _ => by
    simp only [Step.rename, Step.play]
    refine vars.bind fun values => ?_
    cases received with
    | none => exact never (noted "reraise" (stop .decided))
    | some mishap => exact noted "reraise" (raise { mishap with payload := mishap.payload + more.value values })
  | .undefined, _ => noted "undefined" (stop (.failed .undefined))
  | .onErr kind body, plain => noted "on_err" (register (.raised kind) plain)
  | .onUndefined body, plain => noted "on_undefined" (register .undefined plain)
  | .say tag, _ => write (.renamed (.said tag))
  | .set name value, _ => modifyState _
  | .add name value, _ => modifyState _
  | .handles slots, _ => by
    simp only [Step.rename, Step.play]
    refine handlers.bind fun table => write (.of_eq ?_)
    simp [Entry.rename, Function.comp_def]
  | .load name what, _ => by
    simp only [Step.rename, Step.play]
    refine attempts.bind fun n => decision.bind fun d => ?_
    rw [Reading.value_rename]
    exact modifyState _
  | .describe, plain => decision.bind fun d => attempts.bind fun n => write (.described plain _ _)
  | .branch p yes no, plain =>
    vars.bind fun values => branch (p.holds values) (Block.play_renames received yes plain.1)
      (Block.play_renames received no plain.2)
  | .loop count body, plain => vars.bind fun values => times (Block.play_renames received body plain) _
  | .swallow body, plain =>
    (Block.play_renames received body plain).observe.bind fun outcome => note "swallow" outcome
  | .nested form ceiling routine raises, plain => by
    simp only [Step.rename, Step.play]
    refine (act fun vars => hosts.evaluation ⟨form, ceiling, routine⟩ vars plain).bind fun result => ?_
    refine (write (.renamed (.nested result))).bind fun _ => ?_
    rcases result with (refused | undefined | limit | mishap) | answered
    case error.ended.raised => exact branch raises (raise mishap) unit
    all_goals exact unit

theorem Block.play_renames (received : Option Mishap) : (block : Block) → block.PlainUnless spelt →
    Play.Renames f spelt id (block.play host received) ((block.rename f).play host' (received.map (Mishap.rename f)))
  | .done, _ => unit
  | .next step rest, plain =>
    (Step.play_renames received step plain.1).bind fun _ => Block.play_renames received rest plain.2
  | .named name, _ => hosts.block received name

end

theorem Block.respond_renames {body : Block} (plain : body.PlainUnless spelt) (fault : Fault Mishap) :
    Play.Renames f spelt id (body.respond host fault)
      ((body.rename f).respond host' (fault.map (Mishap.rename f))) := by
  cases fault with
  | raised mishap =>
    refine (write (.renamed (.handler mishap))).bind fun _ => (modifyState _).bind fun _ => ?_
    exact (Block.play_renames hosts (some mishap) body plain).bind fun _ => close
  | undefined =>
    refine (write (.renamed .handlerUndefined)).bind fun _ => ?_
    exact (Block.play_renames hosts none body plain).bind fun _ => close

theorem Block.routine_renames {body : Block} (plain : body.PlainUnless spelt) :
    Play.Renames f spelt id (body.routine host) ((body.rename f).routine host') :=
  (Block.play_renames hosts none body plain).bind fun _ => close

end

/-! ### Evaluations -/

/-- The evaluations of two scripts, the second with other names for kinds. -/
def otherKinds (f : String ↪ String) (spelt : Prop) :
    Correspondence String Mishap Block Vars Entry String Mishap Block Vars Entry where
  kind := f
  failure := Mishap.rename f
  handlers body body' := body' = body.rename f ∧ body.PlainUnless spelt
  decisions := Decision.Renamed f spelt
  worlds := World.Renamed f spelt
  kind_failure _ := rfl
  verdict renamed := by rw [renamed.same]; rfl
  find? := by
    intro d d' renamed slot
    rw [renamed.find?]
    cases found : d.handlers.find? slot with
    | none => exact .none
    | some body => exact .some ⟨rfl, renamed.plain slot body found⟩
  record := World.Renamed.record

theorem Play.Renames.bodies {x y : Play Empty} (body : Play.Renames f spelt id x y) :
    (otherKinds f spelt).Bodies x y := by
  intro n d d' w w' decision world
  refine rel_map (body n d d' w w' decision world) ?_
  rintro ⟨reason | nothing, d, w⟩ ⟨_, d', w'⟩ ⟨rfl, decision, world⟩
  · exact ⟨rfl, decision, world⟩
  · exact nomatch nothing

/-- What comes of a run, and of the same run with other names for kinds. -/
structure Outcomes (f : String ↪ String) (spelt : Prop) (out out' : Result × World) : Prop where
  result : out'.1 = out.1.mapError (RunError.rename f)
  world : World.Renamed f spelt out.2 out'.2

/-- What is reported of a script, and of the same script with other names for kinds. -/
structure Report.Renamed {α : Type} (f : String ↪ String) (spelt : Prop) (report report' : Report α) : Prop where
  trace : Retells f spelt report.trace report'.trace
  result : report'.result = report.result.mapError (RunError.rename f)
  vars : report'.vars = report.vars

def Report.rename {α : Type} (f : String ↪ String) (report : Report α) : Report α :=
  ⟨report.trace.map (Entry.rename f), report.result.mapError (RunError.rename f), report.vars⟩

theorem Report.Renamed.eq_of_plain {α : Type} (report report' : Report α) (same : report.Renamed f False report') :
    report' = report.rename f := by
  obtain ⟨trace', result', vars'⟩ := report'
  obtain ⟨trace, rfl, rfl⟩ := same
  have written : trace' = report.trace.map (Entry.rename f) := trace.eq_of_plain
  rw [written]
  rfl

theorem Form.conclude_renames (form : Form) {ending ending' : Finish}
    (endings : (otherKinds f spelt).Endings ending ending') :
    Outcomes f spelt (form.conclude ending) (form.conclude ending') := by
  obtain ⟨result, attempts, decision, w⟩ := ending
  obtain ⟨result', attempts', decision', w'⟩ := ending'
  obtain ⟨same : result' = _, _, _, world⟩ := endings
  subst same
  cases result with
  | error e => exact ⟨rfl, world⟩
  | ok accepted =>
    cases form with
    | evaluate | evaluateByDefault =>
      refine ⟨rfl, ?_⟩
      have state : w'.state = w.state := world.state
      simp only [conclude, mapError_ok, state]
      exact world.after (.renamed [.callback accepted]) w.state
    | decide | decideByDefault => exact ⟨rfl, world⟩

section

variable {host host' : Host} (hosts : host.Renames f spelt host') {w w' : World}
include hosts

theorem Block.responds_rename : (otherKinds f spelt).Responds (Block.respond host) (Block.respond host') := by
  rintro body _ ⟨rfl, plain⟩ fault
  exact (Block.respond_renames hosts plain fault).bodies

theorem Run.perform_renames {run : Run} (plain : run.routine.PlainUnless spelt)
    (world : World.Renamed f spelt w w') :
    Option.Rel (Outcomes f spelt) (run.perform host w) ((run.rename f).perform host' w') := by
  cases made : run.form.evaluator run.ceiling with
  | error e =>
    have made' : (run.rename f).form.evaluator (run.rename f).ceiling = .error e := made
    rw [Run.perform_of_refused made, Run.perform_of_refused made']
    exact .some ⟨rfl, world⟩
  | ok evaluator =>
    have made' : (run.rename f).form.evaluator (run.rename f).ceiling = .ok evaluator := made
    rw [Run.perform_of_accepted made, Run.perform_of_accepted made']
    have routines := (Block.routine_renames hosts plain).bodies
    have driven := Correspondence.drive (Block.responds_rename hosts) routines .fresh world evaluator
    exact rel_map driven fun _ _ => Form.conclude_renames run.form

theorem Run.report?_renames {run : Run} (plain : run.routine.PlainUnless spelt) (vars : Vars) :
    Option.Rel (Report.Renamed f spelt) (run.report? host vars) ((run.rename f).report? host' vars) :=
  rel_map (Run.perform_renames hosts plain (.fresh vars)) fun _ _ out =>
    ⟨out.world.trace, out.result, out.world.state⟩

theorem session_renames {runs : List Run} (plain : ∀ run ∈ runs, run.routine.PlainUnless spelt) (vars : Vars) :
    Option.Rel (List.Forall₂ (Report.Renamed f spelt)) (session host runs vars)
      (session host' (runs.map (Run.rename f)) vars) := by
  induction runs generalizing vars with
  | nil => exact .some .nil
  | cons run runs ih =>
    rw [List.map_cons, session_cons, session_cons]
    refine rel_bind (Run.report?_renames hosts (plain run List.mem_cons_self) vars) fun report report' same => ?_
    have rest := ih (fun later here => plain later (List.mem_cons_of_mem run here)) report.vars
    rw [same.vars]
    exact rel_map rest fun _ _ reports => .cons same reports

theorem Block.routineFor_renames {body : Block} (plain : body.PlainUnless spelt) (item : Item) (index : Nat) :
    Play.Renames f spelt id (body.routineFor host item index) ((body.rename f).routineFor host' item index) :=
  (Play.Renames.write (.renamed (.item item))).bind fun _ => (Play.Renames.modifyState _).bind fun _ =>
    Block.routine_renames hosts plain

theorem sift_renames {body : Block} (plain : body.PlainUnless spelt) (ceiling : Option UInt32) (items : List Item)
    (vars : Vars) :
    Option.Rel (Report.Renamed f spelt) (sift host ceiling body items vars)
      (sift host' ceiling (body.rename f) items vars) := by
  unfold sift
  cases evaluatorOf ceiling with
  | error e => exact .some ⟨.nil, rfl, rfl⟩
  | ok evaluator =>
    have filtered := Correspondence.filter (Block.responds_rename hosts)
      (fun indexed => (Block.routineFor_renames hosts plain indexed.1 indexed.2).bodies) .fresh (.fresh vars) evaluator
      items.zipIdx
    refine rel_bind filtered ?_
    rintro ⟨e | kept, w⟩ ⟨_, w'⟩ ⟨rfl, world⟩
    · exact .some ⟨world.trace, rfl, world.state⟩
    · exact .some ⟨world.trace, rfl, world.state⟩

end

theorem Host.ofDepth_renames {definitions : Definitions} (plain : definitions.PlainUnless spelt) (depth : Nat) :
    (Host.ofDepth definitions depth).Renames f spelt (Host.ofDepth (definitions.rename f) depth) := by
  induction depth with
  | zero => exact ⟨fun _ _ => Play.Renames.act fun _ => .none, fun _ _ _ => .none⟩
  | succ depth ih =>
    refine ⟨fun received name => ?_, fun run vars plainly => ?_⟩
    · have found : (definitions.rename f).lookup name = (definitions.lookup name).map (Block.rename f) :=
        lookup_map_of_injective Function.injective_id (Block.rename f) definitions name
      simp only [Host.ofDepth, found]
      cases defined : definitions.lookup name with
      | none => exact .unit
      | some body => exact Block.play_renames ih received body (plain name body defined)
    · rw [Host.evaluation_eq_report?, Host.evaluation_eq_report?]
      exact rel_map (Run.report?_renames ih plainly vars) fun _ _ same => ⟨same.result, same.trace, same.vars⟩

/-- A script whose kinds have other names, different ones for different kinds, does what it did before: its runs end as
they did, with the same payloads, leave the same variables, and write the same entries, but for the names of kinds. If
something in it describes a decision, that is so but for the texts of the descriptions, which show kinds as they are
spelt. And a handler is run just on faults that fall into the slot it was registered for last. -/
theorem kinds_renamed (f : String ↪ String) (definitions : Definitions) (depth : Nat) :
    let host := Host.ofDepth definitions depth
    let host' := Host.ofDepth (definitions.rename f) depth
    (definitions.PlainUnless False →
      (∀ runs vars, (∀ run ∈ runs, run.routine.PlainUnless False) →
        session host' (runs.map (Run.rename f)) vars = (session host runs vars).map (List.map (Report.rename f))) ∧
      ∀ ceiling body items vars, body.PlainUnless False →
        sift host' ceiling (body.rename f) items vars = (sift host ceiling body items vars).map (Report.rename f)) ∧
    (∀ runs vars, Option.Rel (List.Forall₂ (Report.Renamed f True)) (session host runs vars)
      (session host' (runs.map (Run.rename f)) vars)) ∧
    (∀ ceiling body items vars, Option.Rel (Report.Renamed f True) (sift host ceiling body items vars)
      (sift host' ceiling (body.rename f) items vars)) ∧
    ∀ (evaluator : Evaluator) (respond : Block → Fault Mishap → Play Empty) routine w p handler fault n,
      evaluator.Reaches respond routine w p → p.HandsTo evaluator.limit handler fault n →
        latest fault.slot p.deeds = some handler := by
  intro host host'
  have spelt : Host.Renames f True host host' :=
    Host.ofDepth_renames (fun _ body _ => body.plainUnless_true) depth
  refine ⟨fun plain => ?_, fun runs vars => session_renames spelt (fun run _ => run.routine.plainUnless_true) vars,
    fun ceiling body items vars => sift_renames spelt body.plainUnless_true ceiling items vars,
    fun evaluator respond routine w p handler fault n reached hands => ?_⟩
  · have hosts : Host.Renames f False host host' := Host.ofDepth_renames plain depth
    refine ⟨fun runs vars plainly => ?_, fun ceiling body items vars plainly => ?_⟩
    · refine eq_map_of_rel (session_renames hosts plainly vars) fun reports reports' same => ?_
      exact eq_map_of_forall₂ same Report.Renamed.eq_of_plain
    · exact eq_map_of_rel (sift_renames hosts plainly ceiling items vars) Report.Renamed.eq_of_plain
  · obtain ⟨reason, w', stopped, ⟨_, found, _⟩, _⟩ := hands
    rw [← HandlerTable.find?_eq_latest reached.handlers_eq]
    exact found

/-- Where `net` and `Undefined` change places as kinds, a handler for undefined decisions is left alone as before. -/
theorem kinds_renamed_undefined :
    let f : String ↪ String := (Equiv.swap "net" "Undefined").toEmbedding
    let host := Host.ofDepth [] 1
    let guarded (kind : String) : Run := ⟨.decide, some 3, .next (.onUndefined (.next .reject .done))
      (.next (.onErr kind (.next .accept .done)) (.next (.raise kind (.literal 7)) .done))⟩
    (session host [guarded "net"] {}).map (List.map (·.result.toOption)) = some [some (.boolean true)] ∧
      session host [guarded "Undefined"] {} = (session host [guarded "net"] {}).map (List.map (Report.rename f)) := by
  intro f host guarded
  refine ⟨by decide +kernel, ?_⟩
  have renamed : (guarded "net").rename f = guarded "Undefined" := by
    simp [guarded, Run.rename, Block.rename, Step.rename, f]
  have plain : ∀ run ∈ [guarded "net"], run.routine.PlainUnless False := by
    simp [guarded, Block.PlainUnless, Step.PlainUnless]
  obtain ⟨same, _⟩ := (kinds_renamed f [] 1).1 nofun
  have sessions := same [guarded "net"] {} plain
  rw [List.map_singleton, renamed] at sessions
  exact sessions

end Script

end Adjudication
