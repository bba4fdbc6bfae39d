import BulkTransfer.Status.Printer
import Mathlib.Data.List.Infix

/-!
# What a printer delivers

A printer serves its channel while messages are sent, sinks fail and recover, and somebody tells it
to stop or all who may send are gone; all of this comes in any order (`Service.happen`), and so do
the turns of the printer. Whatever it turns to, once it has ended it has printed every message that
was sent before it was told to stop, each once and in the order in which they were sent, and after
those at most the next few (`Service.gains_of_happenAll`). So each sink holds the lines that it is
to hold of these messages: those of successes, or those of failures and warnings, as far as the
printer is not quiet and does not show only errors (`Verbosity.line?`). A sink that fails loses
lines of its own alone (`Service.delivered_of_ended`).

A printer that was told to stop, or that nobody can send to any more, does end when it is served
(`Service.ended_finish`): it needs at most one turn more than messages wait.
-/

namespace BulkTransfer

/-- A text after lines were written to it. -/
def Sink.written (text : String) (lines : List String) : String :=
  lines.foldl (fun text line => text ++ line ++ "\n") text

/-- The line that a sink is to hold of a message. That of a success stands in the one sink, unless
the printer is quiet or shows only errors; that of a failure or of a warning stands in the other,
unless the printer is quiet. -/
def Verbosity.line? (verbosity : Verbosity) (errors : Bool) : Notice → Option String
  | .success operation description =>
      if errors || verbosity.quiet || verbosity.onlyErrors then none
      else some (operation ++ ": " ++ description)
  | .failure operation description error =>
      if !errors || verbosity.quiet then none
      else some (operation ++ " failed: " ++ description ++ " " ++ error)
  | .warning message =>
      if !errors || verbosity.quiet then none else some ("warning: " ++ message)

/-- The lines that a sink is to hold of messages. -/
def Verbosity.lines (verbosity : Verbosity) (errors : Bool) (messages : List Notice) :
    List String :=
  messages.filterMap (verbosity.line? errors)

namespace Printer

/-- One of the two sinks: that of failures and warnings, or that of successes. -/
def sink (printer : Printer) (errors : Bool) : Sink :=
  if errors then printer.err else printer.out

/-- The printer after the writes of one of its sinks have begun to fail, or to succeed again. -/
def faulted (printer : Printer) (errors broken : Bool) : Printer :=
  if errors then { printer with err := { printer.err with broken := broken } }
  else { printer with out := { printer.out with broken := broken } }

namespace Service

/-- Something that happens at the channel of a printer: a message is sent, the printer is told to
stop, the last of those who may send is gone, a sink fails or recovers, or the printer takes a
turn. -/
inductive Happening where
  | sent (message : Notice)
  | stopped
  | abandoned
  | faulted (errors broken : Bool)
  | turned (turn : Turn)
  deriving DecidableEq, Repr

/-- The printer after something has happened, if that can happen. A message that is sent to a
printer which has ended is lost. -/
def happen (service : Service) : Happening → Option Service
  | .sent message =>
      if service.senders then
        if service.ended then some service
        else some { service with waiting := service.waiting ++ [message] }
      else none
  | .stopped => some { service with stopFired := true }
  | .abandoned => some { service with senders := false }
  | .faulted errors broken =>
      some { service with printer := service.printer.faulted errors broken }
  | .turned turn => service.turn turn

/-- The printer after things have happened one after another, if they can. -/
def happenAll (service : Service) : List Happening → Option Service
  | [] => some service
  | happening :: others => (service.happen happening).bind fun next => next.happenAll others

/-- The messages that are sent, in order. -/
def allSent : List Happening → List Notice
  | [] => []
  | .sent message :: others => message :: allSent others
  | _ :: others => allSent others

/-- The messages that are sent before the printer is told to stop. -/
def timely : List Happening → List Notice
  | [] => []
  | .stopped :: _ => []
  | .sent message :: others => message :: timely others
  | _ :: others => timely others

end Service

/-! ## What a sink gains -/

/-- What the sinks gain when messages are printed in turn: each some of the lines that belong there,
in order, and all of them where the sink is spared. -/
structure Gains (before after : Printer) (messages : List Notice) (spared : Bool → Prop) :
    Prop where
  verbosity : after.verbosity = before.verbosity
  sink : ∀ errors, ∃ kept, kept.Sublist (before.verbosity.lines errors messages) ∧
    (after.sink errors).text = Sink.written (before.sink errors).text kept ∧
    (spared errors → kept = before.verbosity.lines errors messages)

variable {printer before mid after : Printer} {messages others : List Notice}
  {spared spared' : Bool → Prop}

lemma Gains.trans (first : before.Gains mid messages spared)
    (second : mid.Gains after others spared') (stays : ∀ errors, spared errors → spared' errors) :
    before.Gains after (messages ++ others) spared := by
  refine ⟨second.verbosity.trans first.verbosity, fun errors => ?_⟩
  obtain ⟨kept, part, text, whole⟩ := first.sink errors
  obtain ⟨more, part', text', whole'⟩ := second.sink errors
  rw [first.verbosity] at part' whole'
  have split : before.verbosity.lines errors (messages ++ others) =
      before.verbosity.lines errors messages ++ before.verbosity.lines errors others :=
    List.filterMap_append
  refine ⟨kept ++ more, split ▸ part.append part', ?_, fun ok => ?_⟩
  · rw [text', text, Sink.written, Sink.written, Sink.written, List.foldl_append]
  · rw [split, whole ok, whole' (stays errors ok)]

lemma Gains.mono (gains : before.Gains after messages spared)
    (less : ∀ errors, spared' errors → spared errors) : before.Gains after messages spared' :=
  ⟨gains.verbosity, fun errors =>
    let ⟨kept, part, text, whole⟩ := gains.sink errors
    ⟨kept, part, text, fun ok => whole (less errors ok)⟩⟩

lemma gains_of_texts (verbosity : after.verbosity = before.verbosity)
    (texts : ∀ errors, (after.sink errors).text = (before.sink errors).text) :
    before.Gains after [] spared :=
  ⟨verbosity, fun errors => ⟨[], .slnil, texts errors, fun _ => rfl⟩⟩

@[simp] lemma verbosity_print (message : Notice) :
    (printer.print message).2.verbosity = printer.verbosity := by
  unfold print
  split
  · split <;> rfl
  · rfl

/-- What is written to a sink of a message is the line that it is to hold. -/
lemma sink_print (message : Notice) (errors : Bool) :
    (printer.print message).2.sink errors =
      (printer.verbosity.line? errors message).elim (printer.sink errors) fun line =>
        ((printer.sink errors).writeLine line).2 := by
  obtain ⟨⟨quiet, onlyErrors⟩, out, err⟩ := printer
  cases quiet <;> cases onlyErrors <;> cases errors <;> cases message <;> rfl

@[simp] lemma broken_print (message : Notice) (errors : Bool) :
    ((printer.print message).2.sink errors).broken = (printer.sink errors).broken := by
  rw [sink_print]
  cases printer.verbosity.line? errors message with
  | none => rfl
  | some line =>
      rw [Option.elim_some, Sink.writeLine]
      split <;> rfl

lemma gains_of_print (message : Notice) :
    printer.Gains (printer.print message).2 [message]
      fun errors => (printer.sink errors).broken = false := by
  refine ⟨verbosity_print message, fun errors => ?_⟩
  rw [sink_print]
  cases held : printer.verbosity.line? errors message with
  | none =>
      have none : printer.verbosity.lines errors [message] = [] := List.filterMap_cons_none held
      rw [none]
      exact ⟨[], .slnil, rfl, fun _ => rfl⟩
  | some line =>
      have one : printer.verbosity.lines errors [message] = [line] :=
        List.filterMap_cons_some held
      rw [one]
      cases broken : (printer.sink errors).broken with
      | true =>
          exact ⟨[], List.nil_sublist _, by simp [Sink.writeLine, broken, Sink.written], nofun⟩
      | false =>
          exact ⟨[line], .refl _, by simp [Sink.writeLine, broken, Sink.written], fun _ => rfl⟩

lemma broken_printAll (messages : List Notice) (errors : Bool) :
    ((printer.printAll messages).sink errors).broken = (printer.sink errors).broken := by
  induction messages generalizing printer with
  | nil => rfl
  | cons message others ih => exact ih.trans (broken_print message errors)

lemma gains_of_printAll (messages : List Notice) :
    printer.Gains (printer.printAll messages) messages
      fun errors => (printer.sink errors).broken = false := by
  induction messages generalizing printer with
  | nil => exact gains_of_texts rfl fun _ => rfl
  | cons message others ih =>
      exact (gains_of_print message).trans ih fun errors sound => by
        rw [broken_print]; exact sound

@[simp] lemma verbosity_faulted (errors broken : Bool) :
    (printer.faulted errors broken).verbosity = printer.verbosity := by
  cases errors <;> rfl

@[simp] lemma text_faulted (errors broken one : Bool) :
    ((printer.faulted errors broken).sink one).text = (printer.sink one).text := by
  cases errors <;> cases one <;> rfl

lemma gains_of_faulted (errors broken : Bool) :
    printer.Gains (printer.faulted errors broken) [] spared :=
  gains_of_texts (verbosity_faulted errors broken) (text_faulted errors broken)

lemma broken_faulted (errors broken one : Bool) :
    ((printer.faulted errors broken).sink one).broken =
      if errors = one then broken else (printer.sink one).broken := by
  cases errors <;> cases one <;> rfl

/-! ## A printer at its channel -/

/-- The writes of one sink succeed now and do not begin to fail. -/
def Spared (printer : Printer) (happenings : List Service.Happening) (errors : Bool) : Prop :=
  (printer.sink errors).broken = false ∧ .faulted errors true ∉ happenings

namespace Service

variable {service next done : Service} {happening : Happening} {happenings : List Happening}

/-- A spared sink stays spared, whatever happens first. -/
lemma spared_of_happen (happens : service.happen happening = some next) (errors : Bool)
    (ok : service.printer.Spared (happening :: happenings) errors) :
    next.printer.Spared happenings errors := by
  obtain ⟨sound, steady⟩ := ok
  refine ⟨?_, fun later => steady (.tail _ later)⟩
  cases happening with
  | sent message =>
      simp only [happen] at happens
      grind
  | stopped => cases happens; exact sound
  | abandoned => cases happens; exact sound
  | faulted one broken =>
      cases happens
      rw [broken_faulted]
      split
      · cases broken with
        | false => rfl
        | true => subst_vars; exact absurd (.head _) steady
      · exact sound
  | turned turn =>
      simp only [happen, Service.turn] at happens
      cases turn <;> grind [broken_print, broken_printAll]

/-- Nothing that happens to a printer which has ended makes its sinks gain anything, and nobody can
send any more where nobody could. -/
lemma same_of_ended (ended : service.ended = true)
    (happens : service.happen happening = some next) :
    next.ended = true ∧ next.printer.verbosity = service.printer.verbosity ∧
      (∀ errors, (next.printer.sink errors).text = (service.printer.sink errors).text) ∧
      (service.senders = false → next.senders = false ∧ ∀ message, happening ≠ .sent message) := by
  cases happening with
  | sent message => simp only [happen] at happens; grind
  | stopped => cases happens; exact ⟨ended, rfl, fun _ => rfl, fun gone => ⟨gone, nofun⟩⟩
  | abandoned => cases happens; exact ⟨ended, rfl, fun _ => rfl, fun _ => ⟨rfl, nofun⟩⟩
  | faulted errors broken =>
      cases happens
      exact ⟨ended, verbosity_faulted .., fun _ => text_faulted .., fun gone => ⟨gone, nofun⟩⟩
  | turned turn => simp [happen, Service.turn, ended] at happens

/-- Once a printer has ended its sinks gain nothing more. -/
lemma gains_of_ended (happens : service.happenAll happenings = some done)
    (ended : service.ended = true) :
    service.printer.Gains done.printer [] spared := by
  induction happenings generalizing service with
  | nil => cases happens; exact gains_of_texts rfl fun _ => rfl
  | cons happening others ih =>
      obtain ⟨next, first, rest⟩ := Option.bind_eq_some_iff.1 happens
      obtain ⟨still, verbosity, texts, -⟩ := same_of_ended ended first
      exact (gains_of_texts verbosity texts).trans (ih rest still) fun _ ok => ok

/-- Nothing is sent to a printer that has ended because nobody could send any more. -/
lemma timely_of_gone (happens : service.happenAll happenings = some done)
    (ended : service.ended = true) (gone : service.senders = false) : timely happenings = [] := by
  induction happenings generalizing service with
  | nil => rfl
  | cons happening others ih =>
      obtain ⟨next, first, rest⟩ := Option.bind_eq_some_iff.1 happens
      obtain ⟨still, -, -, silent⟩ := same_of_ended ended first
      have none := ih rest still (silent gone).1
      cases happening with
      | sent message => exact absurd rfl ((silent gone).2 message)
      | stopped => rfl
      | _ => exact none

/-- What one happening makes of a printer that has not ended. -/
inductive Becomes (service : Service) : Happening → Service → Prop where
  | waits (message : Notice) :
      Becomes service (.sent message) { service with waiting := service.waiting ++ [message] }
  | stopped : Becomes service .stopped { service with stopFired := true }
  | abandoned : Becomes service .abandoned { service with senders := false }
  | faulted (errors broken : Bool) : Becomes service (.faulted errors broken)
      { service with printer := service.printer.faulted errors broken }
  | prints {message : Notice} {rest : List Notice} (first : service.waiting = message :: rest) :
      Becomes service (.turned .message)
        { service with printer := (service.printer.print message).2, waiting := rest }
  | ends (empty : service.waiting = []) (gone : service.senders = false) :
      Becomes service (.turned .message) { service with ended := true }
  | drains (told : service.stopFired = true) :
      Becomes service (.turned .stop)
        { service with
          printer := service.printer.printAll service.waiting, waiting := [], ended := true }

lemma becomes_of_happen (serving : service.ended = false)
    (happens : service.happen happening = some next) : service.Becomes happening next := by
  obtain ⟨printer, waiting, stopFired, senders, ended⟩ := service
  cases serving
  cases happening with
  | sent message =>
      cases senders <;> cases happens
      exact .waits message
  | stopped => cases happens; exact .stopped
  | abandoned => cases happens; exact .abandoned
  | faulted errors broken => cases happens; exact .faulted errors broken
  | turned turn =>
      cases turn with
      | message =>
          cases waiting with
          | cons message rest => cases happens; exact .prints rfl
          | nil =>
              cases senders <;> cases happens
              exact .ends rfl rfl
      | stop =>
          cases stopFired <;> cases happens
          exact .drains rfl

/-- A printer that has ended has printed what was waiting, then the messages that were sent before
it was told to stop, and after those at most the next few. -/
theorem gains_of_happenAll (happens : service.happenAll happenings = some done)
    (serving : service.ended = false) (ended : done.ended = true) :
    ∃ printed, printed <+: allSent happenings ∧
      (service.stopFired = false → timely happenings <+: printed) ∧
      service.printer.Gains done.printer (service.waiting ++ printed)
        (service.printer.Spared happenings) := by
  induction happenings generalizing service with
  | nil => cases happens; simp [serving] at ended
  | cons happening others ih =>
      obtain ⟨next, first, rest⟩ := Option.bind_eq_some_iff.1 happens
      have spared : ∀ errors, service.printer.Spared (happening :: others) errors →
          next.printer.Spared others errors := spared_of_happen first
      cases becomes_of_happen serving first with
      | waits message =>
          obtain ⟨printed, few, enough, gains⟩ := ih rest serving
          refine ⟨message :: printed, List.cons_prefix_cons.2 ⟨rfl, few⟩,
            fun untold => List.cons_prefix_cons.2 ⟨rfl, enough untold⟩, ?_⟩
          rw [List.append_cons]
          exact gains.mono spared
      | stopped =>
          obtain ⟨printed, few, -, gains⟩ := ih rest serving
          exact ⟨printed, few, fun _ => List.nil_prefix, gains.mono spared⟩
      | abandoned =>
          obtain ⟨printed, few, enough, gains⟩ := ih rest serving
          exact ⟨printed, few, enough, gains.mono spared⟩
      | faulted errors broken =>
          obtain ⟨printed, few, enough, gains⟩ := ih rest serving
          exact ⟨printed, few, enough, (gains_of_faulted errors broken).trans gains spared⟩
      | prints waiting =>
          obtain ⟨printed, few, enough, gains⟩ := ih rest serving
          refine ⟨printed, few, enough, ?_⟩
          rw [waiting]
          exact ((gains_of_print _).mono fun _ ok => ok.1).trans gains spared
      | ends empty gone =>
          refine ⟨[], List.nil_prefix, fun _ => ?_, ?_⟩
          · change timely others <+: []
            rw [timely_of_gone rest rfl gone]
          · rw [empty]
            exact (gains_of_ended rest rfl).mono fun _ ok => ok
      | drains told =>
          refine ⟨[], List.nil_prefix, fun untold => by simp [told] at untold, ?_⟩
          exact ((gains_of_printAll _).mono fun _ ok => ok.1).trans (gains_of_ended rest rfl)
            fun _ ok => ok

/-- Whatever happens while a printer serves its channel, and whatever it turns to: once it has ended
there are messages that it has printed in turn, which are those that were sent before it was told to
stop, and after them at most the next few that were sent; so just the messages that were sent, if
nothing was sent after it was told to stop. Each sink has gained some of the lines that it is to
hold of these messages, in order, and has gained all of them if its own writes did not fail,
whatever became of the other sink. -/
theorem delivered_of_ended (printer : Printer) (happenings : List Happening) (done : Service)
    (happens : { printer := printer, waiting := [] : Service }.happenAll happenings = some done)
    (ended : done.ended = true) :
    ∃ printed, timely happenings <+: printed ∧ printed <+: allSent happenings ∧
      (allSent happenings = timely happenings → printed = allSent happenings) ∧
      ∀ errors, ∃ kept, kept.Sublist (printer.verbosity.lines errors printed) ∧
        (done.printer.sink errors).text = Sink.written (printer.sink errors).text kept ∧
        (printer.Spared happenings errors → kept = printer.verbosity.lines errors printed) := by
  obtain ⟨printed, few, enough, gains⟩ := gains_of_happenAll happens rfl ended
  refine ⟨printed, enough rfl, few, fun inTime => ?_, gains.sink⟩
  exact few.eq_of_length_le (inTime ▸ (enough rfl).length_le)

/-- A printer that is told to stop while a warning waits, and whose successes fail from then on. -/
theorem delivered_warning : ∃ done,
    { printer := {}, waiting := [] : Service }.happenAll
        [.sent (.success "cp" "a"), .turned .message, .sent (.warning "b"), .faulted false true,
          .sent (.success "cp" "c"), .stopped, .turned .stop] = some done ∧
      done.ended = true ∧
      (done.printer.sink true).text = Sink.written "" ["warning: b"] := by
  refine ⟨_, rfl, rfl, ?_⟩
  obtain ⟨printed, -, -, all, sinks⟩ := delivered_of_ended {}
    [.sent (.success "cp" "a"), .turned .message, .sent (.warning "b"), .faulted false true,
      .sent (.success "cp" "c"), .stopped, .turned .stop] _ rfl rfl
  obtain ⟨kept, -, text, whole⟩ := sinks true
  rw [text, whole ⟨rfl, by decide⟩, all rfl]
  rfl

/-! ## A printer ends -/

/-- A printer that was told to stop, or to which nobody can send any more, can take a turn until it
has ended. -/
lemma turn_of_dismissed (serving : service.ended = false)
    (dismissed : service.stopFired = true ∨ service.senders = false) :
    ∃ turn next, service.turn turn = some next := by
  obtain told | gone := dismissed
  · exact ⟨.stop, _, by simp [Service.turn, serving, told]; rfl⟩
  · cases waiting : service.waiting with
    | nil => exact ⟨.message, _, by simp [Service.turn, serving, gone, waiting]; rfl⟩
    | cons message rest => exact ⟨.message, _, by simp [Service.turn, serving, waiting]; rfl⟩

lemma still_of_happenAll (happens : service.happenAll happenings = some done)
    (ended : service.ended = true) : done.ended = true := by
  induction happenings generalizing service with
  | nil => cases happens; exact ended
  | cons happening others ih =>
      obtain ⟨next, first, rest⟩ := Option.bind_eq_some_iff.1 happens
      exact ih rest (same_of_ended ended first).1

/-- A printer that has taken one turn more than there were messages waiting has ended. -/
theorem ended_of_turns (turns : List Turn)
    (happens : service.happenAll (turns.map .turned) = some done)
    (many : service.waiting.length < turns.length) : done.ended = true := by
  induction turns generalizing service with
  | nil => simp at many
  | cons turn others ih =>
      obtain ⟨next, first, rest⟩ := Option.bind_eq_some_iff.1 happens
      cases serving : service.ended with
      | true => simp [happen, Service.turn, serving] at first
      | false =>
        cases becomes_of_happen serving first with
        | prints waiting =>
            refine ih rest ?_
            rw [waiting] at many
            exact Nat.lt_of_succ_lt_succ many
        | ends => exact still_of_happenAll rest rfl
        | drains => exact still_of_happenAll rest rfl

lemma ended_serve (ended : service.ended = true) (turns : Nat) :
    (service.serve turns).ended = true := by
  cases turns with
  | zero => exact ended
  | succ turns => simp [serve, Service.turn, ended]

/-- A printer that serves until it has nothing more to do has ended, if it was told to stop or if
nobody can send any more. -/
theorem ended_finish (dismissed : service.stopFired = true ∨ service.senders = false) :
    service.finish.ended = true := by
  suffices ∀ turns, service.waiting.length < turns → (service.serve turns).ended = true from
    this _ (Nat.lt_succ_self _)
  intro turns many
  induction turns generalizing service with
  | zero => simp at many
  | succ turns ih =>
      rw [serve]
      split
      · next next turned =>
        obtain ⟨turn, first⟩ : ∃ turn, service.turn turn = some next := by
          cases toMessage : service.turn .message with
          | some other => exact ⟨.message, by simpa [toMessage] using turned⟩
          | none => exact ⟨.stop, by simpa [toMessage] using turned⟩
        cases serving : service.ended with
        | true => simp [Service.turn, serving] at first
        | false =>
          have happened : service.happen (.turned turn) = some next := first
          cases becomes_of_happen serving happened with
          | prints waiting =>
              rw [waiting] at many
              exact ih dismissed (Nat.lt_of_succ_lt_succ many)
          | ends => exact ended_serve rfl turns
          | drains => exact ended_serve rfl turns
      · next stuck =>
        cases serving : service.ended with
        | true => rfl
        | false =>
          obtain ⟨turn, next, first⟩ := turn_of_dismissed serving dismissed
          cases turn <;> simp_all

/-- To drain the channel is to turn to the messages that wait one by one, and to stop when none is
left. So what happens in the midst of a drain is among all that may happen. -/
theorem turn_stop_eq (serving : service.ended = false) (told : service.stopFired = true) :
    service.turn .stop =
      (service.happenAll (List.replicate service.waiting.length (.turned .message))).bind
        fun drained => drained.turn .stop := by
  obtain ⟨printer, waiting, stopFired, senders, ended⟩ := service
  cases serving
  cases told
  induction waiting generalizing printer with
  | nil => rfl
  | cons message rest ih => exact ih (printer.print message).2

end Service
end Printer
end BulkTransfer
