import AuthGate.Shutdown
import Mathlib.Algebra.GroupWithZero.Nat
import Mathlib.Data.List.Induction
import Mathlib.Data.List.Nodup

/-! What subscribers can rely on when they are told to stop. All they know is in the answers that have
been given so far: the signals that a subscriber has got, those that it has been told it missed and
those that still wait for it are the triggers since it has joined. -/
namespace AuthGate

/-- Steps with their answers, the last one first. -/
abbrev ShutdownLog := List (ShutdownStep × ShutdownAnswer)

namespace ShutdownLog

/-- What has happened since a subscriber has joined. -/
def since (log : ShutdownLog) (number : Nat) : ShutdownLog :=
  log.takeWhile (· ≠ (.subscribe, .joined number))

/-- The signals that a subscriber has got. -/
def received (log : ShutdownLog) (number : Nat) : Nat :=
  (log.since number).count (.receive number, .signal)

/-- The signals that an entry tells a subscriber it has missed. -/
def lag (number : Nat) : ShutdownStep × ShutdownAnswer → Nat
  | (.receive reader, .lagged missed) => if reader = number then missed else 0
  | _ => 0

/-- The signals that a subscriber has been told it missed. -/
def missed (log : ShutdownLog) (number : Nat) : Nat := ((log.since number).map (lag number)).sum

/-- A trigger that the coordinator has answered. -/
def isTrigger : ShutdownStep × ShutdownAnswer → Bool
  | (.trigger, .notified _) => true
  | _ => false

/-- The triggers since a subscriber has joined. -/
def triggers (log : ShutdownLog) (number : Nat) : Nat := (log.since number).countP isTrigger

def joined? : ShutdownStep × ShutdownAnswer → Option Nat
  | (.subscribe, .joined number) => some number
  | _ => none

/-- The subscribers that have joined and have not left. -/
def live (log : ShutdownLog) : List Nat :=
  (log.filterMap joined?).filter fun number => (.leave number, .removed true) ∉ log.since number

/-- The coordinator is still there. -/
def coordinated (log : ShutdownLog) : Bool := log.all (·.1 ≠ .retire)

variable {log : ShutdownLog} {entry : ShutdownStep × ShutdownAnswer} {number : Nat}

theorem since_cons (other : entry ≠ (.subscribe, .joined number)) :
    since (entry :: log) number = entry :: log.since number := by
  simp [since, other]

theorem since_joined (log : ShutdownLog) (number : Nat) :
    since ((.subscribe, .joined number) :: log) number = [] := by
  simp [since]

/-- An entry adds to what is known of a subscriber that it does not bring in. -/
theorem accounts_cons (log : ShutdownLog) (other : entry ≠ (.subscribe, .joined number)) :
    received (entry :: log) number =
        log.received number + (if entry = (.receive number, .signal) then 1 else 0) ∧
      missed (entry :: log) number = log.missed number + lag number entry ∧
      triggers (entry :: log) number =
        log.triggers number + if isTrigger entry then 1 else 0 := by
  rw [received, missed, triggers, since_cons other, List.count_cons, List.map_cons, List.sum_cons,
    List.countP_cons, Nat.add_comm (lag number entry)]
  simp [received, missed, triggers]

private theorem accounts_joined (log : ShutdownLog) (number : Nat) :
    received ((.subscribe, .joined number) :: log) number = 0 ∧
      missed ((.subscribe, .joined number) :: log) number = 0 ∧
      triggers ((.subscribe, .joined number) :: log) number = 0 := by
  simp [received, missed, triggers, since_joined]

theorem mem_live_iff : number ∈ log.live ↔
    (.subscribe, .joined number) ∈ log ∧ (.leave number, .removed true) ∉ log.since number := by
  have joins (entry : ShutdownStep × ShutdownAnswer) :
      joined? entry = some number ↔ entry = (.subscribe, .joined number) := by
    unfold joined?
    split <;> simp_all
  simp [live, List.mem_filterMap, joins]

/-- A subscriber stays until it leaves. -/
theorem mem_live_cons (other : entry ≠ (.subscribe, .joined number)) :
    number ∈ live (entry :: log) ↔ number ∈ log.live ∧ entry ≠ (.leave number, .removed true) := by
  simp only [mem_live_iff, since_cons other, List.mem_cons, not_or, ne_comm.mp other, false_or]
  tauto

private theorem mem_live_joined (log : ShutdownLog) (number : Nat) :
    number ∈ live ((.subscribe, .joined number) :: log) := by
  simp [mem_live_iff, since_joined]

end ShutdownLog

namespace Shutdown

/-- The state after some steps. -/
def after (state : Shutdown) : List ShutdownStep → Shutdown
  | [] => state
  | step :: steps => (state.step step).1.after steps

/-- All steps since the start, with their answers. -/
def log (steps : List ShutdownStep) : ShutdownLog := (steps.zip (run {} steps)).reverse

/-- The signals that still wait for a subscriber. -/
def pending (state : Shutdown) (number : Nat) : Nat :=
  match state.find? number with
  | some subscriber => state.sent - subscriber.next
  | none => 0

variable {state : Shutdown} {number : Nat} {subscriber : Subscriber}

private theorem after_append (state : Shutdown) (steps later : List ShutdownStep) :
    state.after (steps ++ later) = (state.after steps).after later := by
  induction steps generalizing state with
  | nil => rfl
  | cons step rest ih => exact ih _

private theorem run_append (state : Shutdown) (steps later : List ShutdownStep) :
    state.run (steps ++ later) = state.run steps ++ (state.after steps).run later := by
  induction steps generalizing state with
  | nil => rfl
  | cons step rest ih => exact congrArg _ (ih _)

private theorem length_run (state : Shutdown) (steps : List ShutdownStep) :
    (state.run steps).length = steps.length := by
  induction steps generalizing state with
  | nil => rfl
  | cons step rest ih => exact congrArg _ (ih _)

private theorem log_append (steps : List ShutdownStep) (step : ShutdownStep) :
    log (steps ++ [step]) = (step, ((after {} steps).step step).2) :: log steps := by
  have answered : (after {} steps).run [step] = [((after {} steps).step step).2] := rfl
  rw [log, run_append, List.zip_append (length_run {} steps).symm, answered]
  simp [log]

theorem find?_put (state : Shutdown) (number other : Nat) (value : Option Subscriber)
    (known : number < state.subscribers.length) :
    (state.put number value).find? other = if other = number then value else state.find? other := by
  unfold find? put
  by_cases same : other = number
  · subst same
    simp [known]
  · simp [same, List.getElem?_set_ne (Ne.symm same)]

theorem lt_of_find? (found : state.find? number = some subscriber) :
    number < state.subscribers.length := by
  by_contra beyond
  simp [find?, List.getElem?_eq_none (Nat.le_of_not_lt beyond)] at found

theorem find?_joined (state : Shutdown) (number : Nat) (subscriber : Subscriber) :
    find? { state with subscribers := state.subscribers ++ [some subscriber] } number =
      if number = state.subscribers.length then some subscriber else state.find? number := by
  unfold find?
  rcases Nat.lt_trichotomy number state.subscribers.length with before | rfl | beyond
  · simp [List.getElem?_append_left before, Nat.ne_of_lt before]
  · simp
  · have none : (state.subscribers ++ [some subscriber])[number]? = .none := by
      apply List.getElem?_eq_none
      rw [List.length_append, List.length_singleton]
      exact beyond
    simp only [none, List.getElem?_eq_none (Nat.le_of_lt beyond), Nat.ne_of_gt beyond, if_false]

private theorem present_eq (state : Shutdown) :
    state.present =
      ((List.range state.subscribers.length).filter fun number =>
        (state.find? number).isSome).length := by
  unfold present find?
  generalize state.subscribers = subscribers
  induction subscribers using List.reverseRecOn with
  | nil => rfl
  | append_singleton front last ih =>
    have before : (List.range front.length).filter
        (fun number => ((front ++ [last])[number]?).join.isSome) =
        (List.range front.length).filter fun number => (front[number]?).join.isSome := by
      apply List.filter_congr
      intro number member
      rw [List.getElem?_append_left (List.mem_range.mp member)]
    rw [List.filter_append, List.length_append, ih, List.length_append, List.length_singleton,
      List.range_succ, List.filter_append, List.length_append, before]
    cases last <;> simp

/-- What the answers tell of a state. -/
structure Explains (log : ShutdownLog) (state : Shutdown) : Prop where
  coordinated : log.coordinated = state.coordinated
  joined : log.filterMap ShutdownLog.joined? = (List.range state.subscribers.length).reverse
  live : ∀ number, number ∈ log.live ↔ (state.find? number).isSome
  upToDate : ∀ number subscriber, state.find? number = some subscriber →
    subscriber.next ≤ state.sent
  balanced : ∀ number subscriber, state.find? number = some subscriber →
    log.received number + log.missed number + (state.sent - subscriber.next) = log.triggers number

namespace Explains

variable {log : ShutdownLog}

private theorem start : Explains [] {} where
  coordinated := rfl
  joined := rfl
  live number := by simp [ShutdownLog.live, find?]
  upToDate number subscriber found := by simp [find?] at found
  balanced number subscriber found := by simp [find?] at found

theorem length_live (explains : Explains log state) : log.live.length = state.present := by
  have same : log.live = ((List.range state.subscribers.length).filter fun number =>
      (state.find? number).isSome).reverse := by
    rw [ShutdownLog.live, explains.joined, List.filter_reverse]
    congr 1
    apply List.filter_congr
    intro number member
    have joins : number ∈ log.filterMap ShutdownLog.joined? := by
      rw [explains.joined]
      exact List.mem_reverse.mpr member
    have live := explains.live number
    rw [ShutdownLog.live, List.mem_filter, and_iff_right joins] at live
    exact Bool.eq_iff_iff.mpr live
  rw [same, List.length_reverse, present_eq]

/-- An entry that brings in no subscriber, with what it says of each that is there. -/
theorem cons (explains : Explains log state) {entry : ShutdownStep × ShutdownAnswer}
    {next : Shutdown} (plain : ShutdownLog.joined? entry = none)
    (coordinated : (entry.1 ≠ .retire && state.coordinated) = next.coordinated)
    (length : next.subscribers.length = state.subscribers.length)
    (stays : ∀ number, (next.find? number).isSome ↔
      (state.find? number).isSome ∧ entry ≠ (.leave number, .removed true))
    (moves : ∀ number subscriber, next.find? number = some subscriber →
      ∃ before, state.find? number = some before ∧ subscriber.next ≤ next.sent ∧
        (if entry = (.receive number, .signal) then 1 else 0) + ShutdownLog.lag number entry +
            (next.sent - subscriber.next) =
          (state.sent - before.next) + if ShutdownLog.isTrigger entry then 1 else 0) :
    Explains (entry :: log) next := by
  have other (number : Nat) : entry ≠ (.subscribe, .joined number) := by
    rintro rfl
    cases plain
  constructor
  case coordinated =>
    rw [← coordinated, ← explains.coordinated]
    rfl
  case joined => rw [List.filterMap_cons_none plain, explains.joined, length]
  case live =>
    intro number
    rw [ShutdownLog.mem_live_cons (other number), explains.live, stays]
  case upToDate =>
    intro number subscriber found
    obtain ⟨_, _, upToDate, _⟩ := moves number subscriber found
    exact upToDate
  case balanced =>
    intro number subscriber found
    obtain ⟨before, here, _, moved⟩ := moves number subscriber found
    have balanced := explains.balanced number before here
    obtain ⟨received, missed, triggers⟩ := ShutdownLog.accounts_cons log (other number)
    rw [received, missed, triggers]
    omega

/-- An entry that says nothing of any subscriber. -/
theorem idle (explains : Explains log state) (entry : ShutdownStep × ShutdownAnswer)
    (plain : ShutdownLog.joined? entry = none) (stays : entry.1 ≠ .retire)
    (left : ∀ number, entry ≠ (.leave number, .removed true))
    (read : ∀ number, entry ≠ (.receive number, .signal) ∧ ShutdownLog.lag number entry = 0)
    (quiet : ShutdownLog.isTrigger entry = false) : Explains (entry :: log) state := by
  refine explains.cons plain (by simp [stays]) rfl (by simp [left]) ?_
  intro number subscriber found
  refine ⟨subscriber, found, explains.upToDate number subscriber found, ?_⟩
  simp [read, quiet]

private theorem subscribe (explains : Explains log state) :
    Explains ((.subscribe, .joined state.subscribers.length) :: log)
      { state with subscribers := state.subscribers ++ [some ⟨state.sent⟩] } := by
  have other {number : Nat} (old : number ≠ state.subscribers.length) :
      (ShutdownStep.subscribe, ShutdownAnswer.joined state.subscribers.length) ≠
        (.subscribe, .joined number) := by
    simp [Ne.symm old]
  constructor
  case coordinated =>
    rw [← explains.coordinated]
    rfl
  case joined =>
    simp [ShutdownLog.joined?, explains.joined, List.range_succ]
  case live =>
    intro number
    rw [find?_joined]
    by_cases same : number = state.subscribers.length
    · subst same
      simp [ShutdownLog.mem_live_joined]
    · simp [ShutdownLog.mem_live_cons (other same), explains.live, same]
  case upToDate =>
    intro number subscriber found
    rw [find?_joined] at found
    split at found
    · cases found
      exact Nat.le_refl _
    · exact explains.upToDate number subscriber found
  case balanced =>
    intro number subscriber found
    rw [find?_joined] at found
    split at found
    · rename_i same
      subst same
      cases found
      obtain ⟨received, missed, triggers⟩ :=
        ShutdownLog.accounts_joined log state.subscribers.length
      simp [received, missed, triggers]
    · rename_i old
      obtain ⟨received, missed, triggers⟩ := ShutdownLog.accounts_cons log (other old)
      have balanced := explains.balanced number subscriber found
      simpa [received, missed, triggers, ShutdownLog.lag, ShutdownLog.isTrigger] using balanced

private theorem trigger (explains : Explains log state) :
    Explains ((.trigger, .notified state.present) :: log) state.trigger := by
  unfold Shutdown.trigger
  split
  · rename_i nobody
    refine explains.cons rfl (by simp) rfl (by simp) ?_
    intro number subscriber found
    have absent : log.live = [] := by
      rw [← List.length_eq_zero_iff, explains.length_live, nobody]
    have live := (explains.live number).mpr (by rw [found]; rfl)
    rw [absent] at live
    cases live
  · refine explains.cons rfl (by simp) rfl (by simp [find?]) ?_
    intro number subscriber found
    have upToDate := explains.upToDate number subscriber found
    refine ⟨subscriber, found, Nat.le_succ_of_le upToDate, ?_⟩
    simp only [ShutdownLog.lag, ShutdownLog.isTrigger, if_true]
    simp
    omega

private theorem advance (explains : Explains log state) {answer : ShutdownAnswer} {next : Nat}
    (found : state.find? number = some subscriber) (upToDate : next ≤ state.sent)
    (told : (if answer = .signal then 1 else 0) + ShutdownLog.lag number (.receive number, answer) +
      (state.sent - next) = state.sent - subscriber.next) :
    Explains ((.receive number, answer) :: log) (state.put number (some ⟨next⟩)) := by
  have known := lt_of_find? found
  refine explains.cons rfl (by simp [put]) (by simp [put]) ?_ ?_
  · intro other
    rw [find?_put _ _ _ _ known]
    by_cases same : other = number
    · simp [same, found]
    · simp [same]
  · intro other reader here
    rw [find?_put _ _ _ _ known] at here
    split at here
    · rename_i same
      subst same
      cases here
      refine ⟨subscriber, found, upToDate, ?_⟩
      simpa [ShutdownLog.isTrigger, put] using told
    · rename_i different
      refine ⟨reader, here, explains.upToDate other reader here, ?_⟩
      have unread : ShutdownLog.lag other (.receive number, answer) = 0 := by
        cases answer <;> simp [ShutdownLog.lag, Ne.symm different]
      simp [unread, Ne.symm different, ShutdownLog.isTrigger, put]

private theorem receive (explains : Explains log state)
    (found : state.find? number = some subscriber) :
    Explains ((.receive number, (state.receive number subscriber).2) :: log)
      (state.receive number subscriber).1 := by
  have upToDate := explains.upToDate number subscriber found
  unfold Shutdown.receive
  simp only
  split
  · refine explains.idle _ rfl (by simp) (by simp) ?_ rfl
    intro other
    cases state.coordinated <;> simp [ShutdownLog.lag]
  · split
    · refine explains.advance found (by omega) ?_
      simp only [ShutdownLog.lag, if_true]
      omega
    · refine explains.advance found (by omega) ?_
      simp only [ShutdownLog.lag, if_true, reduceCtorEq, if_false]
      omega

private theorem leave (explains : Explains log state)
    (found : state.find? number = some subscriber) :
    Explains ((.leave number, .removed true) :: log) (state.put number none) := by
  have known := lt_of_find? found
  refine explains.cons rfl (by simp [put]) (by simp [put]) ?_ ?_
  · intro other
    rw [find?_put _ _ _ _ known]
    by_cases same : other = number
    · simp [same]
    · simp [same, Ne.symm same]
  · intro other reader here
    rw [find?_put _ _ _ _ known] at here
    split at here
    · cases here
    · refine ⟨reader, here, explains.upToDate other reader here, ?_⟩
      simp [ShutdownLog.lag, ShutdownLog.isTrigger, put]

private theorem retire (explains : Explains log state) :
    Explains ((.retire, .removed state.coordinated) :: log) { state with coordinated := false } := by
  refine explains.cons rfl (by simp) rfl (by simp [find?]) ?_
  intro number subscriber found
  refine ⟨subscriber, found, explains.upToDate number subscriber found, ?_⟩
  simp [ShutdownLog.lag, ShutdownLog.isTrigger]

private theorem step (explains : Explains log state) (step : ShutdownStep) :
    Explains ((step, (state.step step).2) :: log) (state.step step).1 := by
  have silent (number : Nat) : ShutdownLog.lag number (step, .gone) = 0 := by
    cases step <;> rfl
  cases step with
  | subscribe =>
    by_cases coordinated : state.coordinated = true
    · simpa [Shutdown.step, coordinated] using explains.subscribe
    · simpa [Shutdown.step, coordinated] using
        explains.idle (.subscribe, .gone) rfl (by simp) (by simp) (by simp [silent]) rfl
  | trigger =>
    by_cases coordinated : state.coordinated = true
    · simpa [Shutdown.step, coordinated] using explains.trigger
    · simpa [Shutdown.step, coordinated] using
        explains.idle (.trigger, .gone) rfl (by simp) (by simp) (by simp [silent]) rfl
  | receive number =>
    cases found : state.find? number with
    | some subscriber => simpa [Shutdown.step, found] using explains.receive found
    | none =>
      simpa [Shutdown.step, found] using explains.idle (.receive number, .gone) rfl
        (by simp) (by simp) (by simp [silent]) rfl
  | leave number =>
    cases found : state.find? number with
    | some subscriber => simpa [Shutdown.step, found] using explains.leave found
    | none =>
      simpa [Shutdown.step, found] using explains.idle (.leave number, .removed false)
        rfl (by simp) (by simp) (by simp [ShutdownLog.lag]) rfl
  | retire => simpa [Shutdown.step] using explains.retire

end Explains

private theorem explains (steps : List ShutdownStep) : Explains (log steps) (after {} steps) := by
  induction steps using List.reverseRecOn with
  | nil => exact .start
  | append_singleton steps step ih =>
    rw [log_append, after_append]
    exact ih.step step

theorem pending_of_find? (found : state.find? number = some subscriber) :
    state.pending number = state.sent - subscriber.next := by
  simp [pending, found]

/-- What a subscriber reads when so many signals wait for it. -/
inductive Reads (state : Shutdown) (number : Nat) : ShutdownAnswer → Prop where
  | absent (absent : state.find? number = none) : Reads state number .gone
  | nothing (present : (state.find? number).isSome) (none : state.pending number = 0)
      (coordinated : state.coordinated = true) : Reads state number .nothing
  | closed (present : (state.find? number).isSome) (none : state.pending number = 0)
      (retired : state.coordinated = false) : Reads state number .closed
  | signal (present : (state.find? number).isSome) (one : state.pending number = 1) :
      Reads state number .signal
  | lagged (present : (state.find? number).isSome) (several : 1 < state.pending number) :
      Reads state number (.lagged (state.pending number - 1))

theorem reads (state : Shutdown) (number : Nat) :
    Reads state number (state.step (.receive number)).2 := by
  cases found : state.find? number with
  | none =>
    simp only [step, found]
    exact .absent found
  | some subscriber =>
    have present : (state.find? number).isSome := by rw [found]; rfl
    have pending := pending_of_find? found
    simp only [step, found, Shutdown.receive, ← pending]
    split
    · rename_i none
      cases coordinated : state.coordinated with
      | true => exact .nothing present none coordinated
      | false => exact .closed present none coordinated
    · split
      · rename_i one
        exact .signal present one
      · exact .lagged present (by omega)

private theorem answer_of_one (present : (state.find? number).isSome)
    (one : state.pending number = 1) :
    (state.step (.receive number)).2 = .signal := by
  have read := reads state number
  generalize (state.step (.receive number)).2 = answer at read ⊢
  cases read with
  | absent absent => simp [absent] at present
  | nothing _ none | closed _ none => omega
  | signal => rfl
  | lagged _ several => omega

private theorem find?_step {step : ShutdownStep} (found : state.find? number = some subscriber)
    (quiet : step ≠ .trigger) (unread : step ≠ .receive number) (stays : step ≠ .leave number) :
    (state.step step).1.find? number = some subscriber ∧ (state.step step).1.sent = state.sent := by
  have passes {other : Nat} (value : Option Subscriber) (different : number ≠ other) :
      (state.put other value).find? number = some subscriber := by
    simpa [find?, put, List.getElem?_set_ne (Ne.symm different)] using found
  cases step with
  | subscribe =>
    cases coordinated : state.coordinated with
    | true =>
      simp only [Shutdown.step, coordinated, if_true, and_true]
      have joined := find?_joined state number ⟨state.sent⟩
      rw [if_neg (Nat.ne_of_lt (lt_of_find? found)), found] at joined
      rwa [coordinated] at joined
    | false => simp [Shutdown.step, coordinated, found]
  | trigger => exact absurd rfl quiet
  | receive other =>
    have different : number ≠ other := by simpa [eq_comm] using unread
    cases reader : state.find? other with
    | none => simp [Shutdown.step, reader, found]
    | some behind =>
      simp only [Shutdown.step, reader, Shutdown.receive]
      split
      · exact ⟨found, rfl⟩
      · split
        · exact ⟨passes _ different, rfl⟩
        · exact ⟨passes _ different, rfl⟩
  | leave other =>
    have different : number ≠ other := by simpa [eq_comm] using stays
    cases leaver : state.find? other with
    | none => simp [Shutdown.step, leaver, found]
    | some _ =>
      simp only [Shutdown.step, leaver]
      exact ⟨passes none different, rfl⟩
  | retire => exact ⟨found, rfl⟩

private theorem pending_after {steps : List ShutdownStep} (present : (state.find? number).isSome)
    (elsewhere : ∀ step ∈ steps,
      step ≠ .trigger ∧ step ≠ .receive number ∧ step ≠ .leave number) :
    ((state.after steps).find? number).isSome ∧
      (state.after steps).pending number = state.pending number := by
  induction steps generalizing state with
  | nil => exact ⟨present, rfl⟩
  | cons step rest ih =>
    obtain ⟨subscriber, found⟩ := Option.isSome_iff_exists.mp present
    obtain ⟨quiet, unread, stays⟩ := elsewhere step List.mem_cons_self
    obtain ⟨here, sent⟩ := find?_step found quiet unread stays
    obtain ⟨there, pending⟩ := ih (by rw [here]; rfl) fun later member =>
      elsewhere later (List.mem_cons_of_mem _ member)
    refine ⟨there, ?_⟩
    rw [after, pending, pending_of_find? here, pending_of_find? found, sent]

/-- Reading leaves at most one signal to be read. -/
theorem pending_receive (present : (state.find? number).isSome) :
    ((state.step (.receive number)).1.find? number).isSome ∧
      (state.step (.receive number)).1.pending number =
        if 1 < state.pending number then 1 else 0 := by
  obtain ⟨subscriber, found⟩ := Option.isSome_iff_exists.mp present
  have goesOn (next : Nat) : (state.put number (some ⟨next⟩)).find? number = some ⟨next⟩ := by
    rw [find?_put _ _ _ _ (lt_of_find? found), if_pos rfl]
  rw [pending_of_find? found]
  simp only [step, found, Shutdown.receive]
  split
  · rename_i none
    simp [found, pending_of_find? found, none]
  · split
    · rename_i one
      rw [pending_of_find? (goesOn _), goesOn]
      simp only [put, one, Option.isSome_some, Nat.lt_irrefl, if_false, true_and]
      omega
    · rw [pending_of_find? (goesOn _), goesOn, if_pos (by omega)]
      simp only [put, Option.isSome_some, true_and]
      omega

private theorem signal_of_lagged {missed : Nat} {between : List ShutdownStep}
    (heard : (state.step (.receive number)).2 = .lagged missed)
    (elsewhere : ∀ step ∈ between,
      step ≠ .trigger ∧ step ≠ .receive number ∧ step ≠ .leave number) :
    (((state.step (.receive number)).1.after between).step (.receive number)).2 = .signal := by
  have read := reads state number
  rw [heard] at read
  cases read with
  | lagged present several =>
    obtain ⟨here, first⟩ := pending_receive present
    obtain ⟨there, kept⟩ := pending_after here elsewhere
    rw [if_pos several] at first
    exact answer_of_one there (kept.trans first)

private theorem pending_receive_twice (present : (state.find? number).isSome) :
    (state.after [.receive number, .receive number]).pending number = 0 := by
  obtain ⟨here, first⟩ := pending_receive present
  obtain ⟨_, second⟩ := pending_receive here
  rw [after, after, after, second, first]
  split <;> rfl

namespace Explains

variable {log : ShutdownLog}

theorem pending (explains : Explains log state) (live : number ∈ log.live) :
    log.received number + log.missed number + state.pending number = log.triggers number := by
  obtain ⟨subscriber, found⟩ := Option.isSome_iff_exists.mp ((explains.live number).mp live)
  rw [pending_of_find? found]
  exact explains.balanced number subscriber found

private theorem settled (explains : Explains log state) (present : (state.find? number).isSome)
    (none : state.pending number = 0) :
    number ∈ log.live ∧ log.received number + log.missed number = log.triggers number := by
  have live := (explains.live number).mpr present
  have balanced := explains.pending live
  exact ⟨live, by omega⟩

private theorem told (explains : Explains log state) (live : number ∈ log.live)
    (behind : log.received number + log.missed number < log.triggers number) :
    (state.step (.receive number)).2 = .signal ∨
      ∃ missed, (state.step (.receive number)).2 = .lagged missed := by
  have balanced := explains.pending live
  have present := (explains.live number).mp live
  have read := reads state number
  generalize (state.step (.receive number)).2 = answer at read ⊢
  cases read with
  | absent absent => simp [absent] at present
  | nothing _ none | closed _ none => omega
  | signal => exact .inl rfl
  | lagged => exact .inr ⟨_, rfl⟩

end Explains

/-- What subscribers can rely on, as far as the answers tell that have been given. -/
structure Reliable (log : ShutdownLog) (state : Shutdown) : Prop where
  distinct : log.live.Nodup
  balanced : ∀ number ∈ log.live,
    log.received number + log.missed number + state.pending number = log.triggers number
  notified : (state.step .trigger).2 =
    if log.coordinated then .notified log.live.length else .gone
  nothing : ∀ number, (state.step (.receive number)).2 = .nothing →
    number ∈ log.live ∧ log.received number + log.missed number = log.triggers number ∧
      log.coordinated = true
  closed : ∀ number, (state.step (.receive number)).2 = .closed →
    number ∈ log.live ∧ log.received number + log.missed number = log.triggers number ∧
      log.coordinated = false
  delivered : ∀ number ∈ log.live,
    log.received number + log.missed number < log.triggers number →
      (state.step (.receive number)).2 = .signal ∨
        ∃ missed, (state.step (.receive number)).2 = .lagged missed
  caughtUp : ∀ number missed between, (state.step (.receive number)).2 = .lagged missed →
    (∀ step ∈ between, step ≠ .trigger ∧ step ≠ .receive number ∧ step ≠ .leave number) →
      (((state.step (.receive number)).1.after between).step (.receive number)).2 = .signal
  drained : ∀ number ∈ log.live,
    (state.after [.receive number, .receive number]).pending number = 0

/-- Whatever is done in whatever order, no signal is lost and none is made up. -/
theorem reliable (steps : List ShutdownStep) : Reliable (log steps) (after {} steps) := by
  have explains := explains steps
  generalize log steps = log at explains ⊢
  generalize after {} steps = state at explains ⊢
  constructor
  case distinct =>
    rw [ShutdownLog.live, explains.joined]
    exact (List.nodup_reverse.mpr List.nodup_range).filter _
  case balanced => exact fun _ live => explains.pending live
  case notified =>
    rw [explains.coordinated, explains.length_live, step]
    split <;> rfl
  case nothing =>
    intro number heard
    have read := reads state number
    rw [heard] at read
    cases read with
    | nothing present none coordinated =>
      obtain ⟨live, settled⟩ := explains.settled present none
      exact ⟨live, settled, explains.coordinated.trans coordinated⟩
  case closed =>
    intro number heard
    have read := reads state number
    rw [heard] at read
    cases read with
    | closed present none retired =>
      obtain ⟨live, settled⟩ := explains.settled present none
      exact ⟨live, settled, explains.coordinated.trans retired⟩
  case delivered => exact fun _ live behind => explains.told live behind
  case caughtUp => exact fun _ _ _ heard elsewhere => signal_of_lagged heard elsewhere
  case drained => exact fun number live => pending_receive_twice ((explains.live number).mp live)

/-- Who is behind is told so, gets the last signal, and only then learns that nobody coordinates. -/
example : run {} [.subscribe, .trigger, .trigger, .retire, .receive 0, .receive 0, .receive 0] =
    [.joined 0, .notified 1, .notified 1, .removed true, .lagged 1, .signal, .closed] := by
  decide

end Shutdown
end AuthGate
