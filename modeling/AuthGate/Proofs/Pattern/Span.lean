import AuthGate.Pattern.Replacement

/-! The spans of matches. The code of a pattern stands between the instructions that save where the
match begins and where it ends, and no jump leads past them, so every match has a span in the text. -/
namespace AuthGate.Pattern

/-- The places that an instruction may jump to, counted from its own. -/
def Instruction.offsets : Instruction → List Int
  | .jump offset => [offset]
  | .split preferred other => [preferred, other]
  | _ => []

/-- Code that does not accept, and that jumps to places from a first to a last one, both counted from
its beginning. -/
def Within (first last : Int) : List Instruction → Prop
  | [] => True
  | instruction :: rest =>
    instruction ≠ .accept ∧ (∀ offset ∈ instruction.offsets, first ≤ offset ∧ offset ≤ last) ∧
      Within (first - 1) (last - 1) rest

/-- Code that jumps no further than right behind its end. -/
def Closed (code : List Instruction) : Prop := Within 0 code.length code

theorem Within.mono {first last lower upper : Int} {code : List Instruction}
    (within : Within first last code) (below : lower ≤ first) (above : last ≤ upper) :
    Within lower upper code := by
  induction code generalizing first last lower upper with
  | nil => trivial
  | cons instruction rest ih =>
    obtain ⟨goesOn, jumps, behind⟩ := within
    refine ⟨goesOn, fun offset member => ?_, ih behind (by omega) (by omega)⟩
    have bounds := jumps offset member
    omega

theorem within_append_iff {first last : Int} {code more : List Instruction} :
    Within first last (code ++ more) ↔
      Within first last code ∧ Within (first - code.length) (last - code.length) more := by
  induction code generalizing first last with
  | nil => simp [Within]
  | cons instruction rest ih =>
    have low : first - 1 - rest.length = first - (rest.length + 1) := by omega
    have high : last - 1 - rest.length = last - (rest.length + 1) := by omega
    simp [Within, ih, and_assoc, low, high]

theorem Within.get {first last : Int} {code : List Instruction} {place : Nat}
    {instruction : Instruction} (within : Within first last code)
    (found : code[place]? = some instruction) :
    instruction ≠ .accept ∧
      ∀ offset ∈ instruction.offsets, first ≤ place + offset ∧ place + offset ≤ last := by
  induction code generalizing first last place with
  | nil => simp at found
  | cons head rest ih =>
    obtain ⟨goesOn, jumps, behind⟩ := within
    cases place with
    | zero =>
      obtain rfl : head = instruction := by simpa using found
      refine ⟨goesOn, fun offset member => ?_⟩
      have bounds := jumps offset member
      omega
    | succ place =>
      obtain ⟨goesOn, jumps⟩ := ih behind (by simpa using found)
      refine ⟨goesOn, fun offset member => ?_⟩
      have bounds := jumps offset member
      omega

theorem mem_offsets_choice {greedy : Bool} {onward away offset : Int} :
    offset ∈ (choice greedy onward away).offsets ↔ offset = onward ∨ offset = away := by
  cases greedy with
  | true => simp [choice, Instruction.offsets]
  | false => simp [choice, Instruction.offsets, or_comm]

theorem choice_ne_accept {greedy : Bool} {onward away : Int} :
    choice greedy onward away ≠ .accept := by
  cases greedy <;> simp [choice]

namespace Closed

variable {code more : List Instruction}

theorem append (closed : Closed code) (behind : Closed more) : Closed (code ++ more) := by
  unfold Closed
  rw [List.length_append, within_append_iff]
  exact ⟨closed.mono (by omega) (by omega), behind.mono (by omega) (by omega)⟩

theorem times (closed : Closed code) (count : Nat) : Closed (Pattern.times code count) := by
  induction count with
  | zero => trivial
  | succ count ih => exact closed.append ih

theorem onceOrMore (closed : Closed code) (greedy : Bool) :
    Closed (Pattern.onceOrMore greedy code) := by
  unfold Closed Pattern.onceOrMore
  rw [List.length_append, List.length_singleton, within_append_iff]
  refine ⟨closed.mono (by omega) (by omega), choice_ne_accept, fun offset member => ?_, trivial⟩
  rcases mem_offsets_choice.mp member with rfl | rfl <;> omega

theorem atMostOnce (closed : Closed code) (greedy : Bool) :
    Closed (Pattern.atMostOnce greedy code) := by
  unfold Closed Pattern.atMostOnce
  rw [List.length_cons]
  refine ⟨choice_ne_accept, fun offset member => ?_, closed.mono (by omega) (by omega)⟩
  rcases mem_offsets_choice.mp member with rfl | rfl <;> omega

theorem atMost (closed : Closed code) (greedy : Bool) (count : Nat) :
    Closed (Pattern.atMost greedy code count) := by
  induction count with
  | zero => trivial
  | succ count ih => exact (closed.append ih).atMostOnce greedy

theorem anyNumber (closed : Closed code) (greedy nullable : Bool) :
    Closed (Pattern.anyNumber greedy nullable code) := by
  unfold Pattern.anyNumber
  split
  · exact (closed.onceOrMore greedy).atMostOnce greedy
  · unfold Closed
    rw [List.length_cons, List.length_append, List.length_singleton]
    refine ⟨choice_ne_accept, fun offset member => ?_, ?_⟩
    · rcases mem_offsets_choice.mp member with rfl | rfl <;> omega
    · rw [within_append_iff]
      refine ⟨closed.mono (by omega) (by omega), by simp, fun offset member => ?_, trivial⟩
      have back : offset = -(code.length + 1) := by simpa [Instruction.offsets] using member
      omega

end Closed

theorem closed_compile (node : Node) : Closed (compile node) := by
  induction node with
  | empty => trivial
  | set set => exact ⟨by simp, by simp [Instruction.offsets], trivial⟩
  | look look => exact ⟨by simp, by simp [Instruction.offsets], trivial⟩
  | concat left right first second => exact first.append second
  | alternate left right first second =>
    unfold Closed compile
    simp only [List.length_cons, List.length_append]
    refine ⟨by simp, fun offset member => ?_, within_append_iff.mpr ⟨?_, by simp, ?_, ?_⟩⟩
    · have either : offset = 1 ∨ offset = (compile left).length + 2 := by
        simpa [Instruction.offsets] using member
      omega
    · exact first.mono (by omega) (by omega)
    · intro offset member
      have onward : offset = (compile right).length + 1 := by simpa [Instruction.offsets] using member
      omega
    · exact second.mono (by omega) (by omega)
  | group index body inner =>
    unfold Closed compile
    rw [List.length_cons, List.length_append, List.length_singleton]
    refine ⟨by simp, by simp [Instruction.offsets], within_append_iff.mpr ⟨?_, ?_⟩⟩
    · exact inner.mono (by omega) (by omega)
    · exact ⟨by simp, by simp [Instruction.offsets], trivial⟩
  | repetition least most greedy body inner =>
    unfold compile
    simp only
    split
    · exact (inner.times least).append (inner.atMost greedy _)
    · split
      · exact inner.anyNumber greedy _
      · exact (inner.times _).append (inner.onceOrMore greedy)

/-- What stands at a place of a program: instructions of a pattern between those that save where a match
begins and ends, and nothing behind them but the one that accepts. -/
inductive Stands (last : Nat) : Nat → Instruction → Prop where
  | first : Stands last 0 (.save 0)
  | inside {counter : Nat} {instruction : Instruction} (positive : 0 < counter) (below : counter < last)
      (goesOn : instruction ≠ .accept)
      (jumps : ∀ offset ∈ instruction.offsets, 1 ≤ counter + offset ∧ counter + offset ≤ last) :
      Stands last counter instruction
  | final : Stands last last (.save 1)
  | accept : Stands last (last + 1) .accept

theorem Stands.lt_of_accept {last counter : Nat} (stands : Stands last counter .accept) :
    last < counter := by
  cases stands with
  | inside _ _ goesOn _ => exact absurd rfl goesOn
  | accept => exact Nat.lt_succ_self last

theorem stands_of_closed {code : List Instruction} {counter : Nat} {instruction : Instruction}
    (closed : Closed code)
    (found : (.save 0 :: (code ++ [.save 1, .accept]))[counter]? = some instruction) :
    Stands (code.length + 1) counter instruction := by
  cases counter with
  | zero =>
    obtain rfl : .save 0 = instruction := by simpa using found
    exact .first
  | succ place =>
    rw [List.getElem?_cons_succ] at found
    by_cases inside : place < code.length
    · rw [List.getElem?_append_left inside] at found
      obtain ⟨goesOn, jumps⟩ := closed.get found
      refine .inside (by omega) (by omega) goesOn fun offset member => ?_
      have bounds := jumps offset member
      omega
    · obtain ⟨beyond, rfl⟩ := Nat.exists_eq_add_of_le (Nat.le_of_not_lt inside)
      rw [List.getElem?_append_right (by omega), Nat.add_sub_cancel_left] at found
      match beyond with
      | 0 =>
        obtain rfl : .save 1 = instruction := by simpa using found
        exact .final
      | 1 =>
        obtain rfl : .accept = instruction := by simpa using found
        exact .accept
      | _ + 2 => simp at found

/-- A program whose match is saved at the beginning and at a last place. -/
structure Framed (program : Array Instruction) (last : Nat) : Prop where
  positive : 0 < last
  stands : ∀ counter instruction, program[counter]? = some instruction → Stands last counter instruction

theorem framed_of_parse {text : String} {pattern : Pattern} (read : parse text = .ok pattern) :
    ∃ last, Framed pattern.program last := by
  unfold parse at read
  split at read
  · cases read
  · rename_i parsed _
    split at read
    · cases read
    · cases read
      refine ⟨(compile parsed.node).length + 1, Nat.succ_pos _, fun counter instruction found => ?_⟩
      have code : compile (.group 0 parsed.node) ++ [.accept] =
          .save 0 :: (compile parsed.node ++ [.save 1, .accept]) := by simp [compile]
      rw [code, List.getElem?_toArray] at found
      exact stands_of_closed (closed_compile parsed.node) found

/-- Slots that hold where a match begins and where it ends, up to a limit. -/
def Spans (slots : Slots) (limit : Nat) : Prop :=
  ∃ start stop, slots[0]? = some (some start) ∧ slots[1]? = some (some stop) ∧ start ≤ stop ∧
    stop ≤ limit

theorem Spans.mono {slots : Slots} {limit upper : Nat} (spans : Spans slots limit)
    (below : limit ≤ upper) : Spans slots upper := by
  obtain ⟨start, stop, first, second, order, before⟩ := spans
  exact ⟨start, stop, first, second, order, Nat.le_trans before below⟩

/-- What a thread has saved: behind the first instruction where the match begins, and behind the last one
where it ends. -/
structure Saved (last position counter : Nat) (slots : Slots) : Prop where
  room : 2 ≤ slots.length
  begun : 0 < counter → ∃ start ≤ position, slots[0]? = some (some start)
  ended : last < counter → Spans slots position

/-- All threads of a frontier have saved what they passed. -/
def Frontier.Saved (frontier : Frontier) (last position : Nat) : Prop :=
  ∀ thread ∈ frontier.threads, Pattern.Saved last position thread.counter thread.slots

namespace Saved

variable {last position counter : Nat} {slots : Slots}

/-- Inside the code nothing has to be saved. -/
theorem move {target : Nat} (saved : Saved last position counter slots) (positive : 0 < counter)
    (inside : target ≤ last) : Saved last position target slots where
  room := saved.room
  begun _ := saved.begun positive
  ended beyond := absurd beyond (Nat.not_lt.mpr inside)

theorem later {limit : Nat} (saved : Saved last position counter slots) (after : position ≤ limit) :
    Saved last limit counter slots where
  room := saved.room
  begun positive :=
    have ⟨start, before, found⟩ := saved.begun positive
    ⟨start, Nat.le_trans before after, found⟩
  ended beyond := (saved.ended beyond).mono after

theorem save {slot : Nat} (saved : Saved last position counter slots) (positive : 0 < last)
    (stands : Stands last counter (.save slot)) :
    Saved last position (counter + 1) (slots.set slot (some position)) := by
  have room := saved.room
  constructor
  case room => rwa [List.length_set]
  case begun =>
    intro _
    by_cases first : slot = 0
    · exact ⟨position, Nat.le_refl _, by rw [first, List.getElem?_set_self (by omega)]⟩
    · have begun : 0 < counter := by
        cases stands with
        | first => exact absurd rfl first
        | inside positive _ _ _ => exact positive
        | final => exact positive
      obtain ⟨start, before, found⟩ := saved.begun begun
      exact ⟨start, before, by rw [List.getElem?_set_ne (by omega), found]⟩
  case ended =>
    intro beyond
    cases stands with
    | first => omega
    | inside _ below _ _ => omega
    | final =>
      obtain ⟨start, before, found⟩ := saved.begun positive
      refine ⟨start, position, ?_, ?_, before, Nat.le_refl _⟩
      · rw [List.getElem?_set_ne (by omega), found]
      · rw [List.getElem?_set_self (by omega)]

end Saved

variable {program : Array Instruction} {last : Nat}

/-- Behind an instruction of the code that saves nothing the next one stands in the code as well. -/
theorem Saved.next {position counter : Nat} {slots : Slots} {instruction : Instruction}
    (saved : Saved last position counter slots) (stands : Stands last counter instruction)
    (keeps : ∀ slot, instruction ≠ .save slot) (goesOn : instruction ≠ .accept) :
    Saved last position (counter + 1) slots := by
  cases stands with
  | first => exact absurd rfl (keeps 0)
  | inside positive below _ _ => exact saved.move positive below
  | final => exact absurd rfl (keeps 1)
  | accept => exact absurd rfl goesOn

theorem Saved.goTo {position counter : Nat} {slots : Slots} {instruction : Instruction} {offset : Int}
    (saved : Saved last position counter slots) (stands : Stands last counter instruction)
    (jumps : offset ∈ instruction.offsets) :
    Saved last position ((counter : Int) + offset).toNat slots := by
  cases stands with
  | first => cases jumps
  | inside positive _ _ bounds =>
    have target := bounds offset jumps
    exact saved.move positive (by omega)
  | final => cases jumps
  | accept => cases jumps

/-- Threads that follow instructions save what they pass. -/
theorem follow_saved (framed : Framed program last) (place : Place) (fuel counter : Nat)
    {slots : Slots} {frontier : Frontier} (saved : Saved last place.position counter slots)
    (before : frontier.Saved last place.position) :
    (follow program place fuel counter slots frontier).Saved last place.position := by
  induction fuel generalizing counter slots frontier with
  | zero => exact before
  | succ fuel ih =>
    unfold follow
    split
    · exact before
    · have marked : Frontier.Saved ⟨frontier.threads, frontier.seen.setIfInBounds counter true⟩ last
          place.position := before
      have added : Frontier.Saved ⟨⟨counter, slots⟩ :: frontier.threads,
          frontier.seen.setIfInBounds counter true⟩ last place.position := by
        intro thread member
        rcases List.mem_cons.mp member with rfl | earlier
        · exact saved
        · exact before thread earlier
      have stands := framed.stands counter
      simp only
      split
      · exact marked
      · exact added
      · exact added
      · rename_i look found
        split
        · exact ih _ (saved.next (stands _ found) (by simp) (by simp)) marked
        · exact marked
      · rename_i slot found
        exact ih _ (saved.save framed.positive (stands _ found)) marked
      · rename_i offset found
        exact ih _ (saved.goTo (stands _ found) (by simp [Instruction.offsets])) marked
      · rename_i preferred other found
        exact ih _ (saved.goTo (stands _ found) (by simp [Instruction.offsets]))
          (ih _ (saved.goTo (stands _ found) (by simp [Instruction.offsets])) marked)

/-- What has been found and what is still looked for when a round ends. -/
structure Round (last position : Nat) (best : Option Slots) (frontier : Frontier) : Prop where
  best : ∀ slots, best = some slots → Spans slots position
  threads : frontier.Saved last position

theorem advance_saved (framed : Framed program last) (next : Place) (c : Option Char)
    {position : Nat} (after : position ≤ next.position) {threads : List Thread}
    {best : Option Slots} {frontier : Frontier}
    (each : ∀ thread ∈ threads, Saved last position thread.counter thread.slots)
    (before : Round last next.position best frontier) :
    Round last next.position (advance program next c threads best frontier).1
      (advance program next c threads best frontier).2 := by
  induction threads generalizing best frontier with
  | nil => exact before
  | cons thread threads ih =>
    have saved := (each thread List.mem_cons_self).later after
    have others : ∀ other ∈ threads, Saved last position other.counter other.slots :=
      fun other member => each other (List.mem_cons_of_mem _ member)
    have stands := framed.stands thread.counter
    unfold advance
    split
    · rename_i found
      refine ⟨?_, before.threads⟩
      rintro slots ⟨⟩
      exact saved.ended (stands _ found).lt_of_accept
    · rename_i set found
      refine ih others ⟨before.best, ?_⟩
      split
      · exact follow_saved framed next _ _ (saved.next (stands _ found) (by simp) (by simp))
          before.threads
      · exact before.threads
    · exact ih others before

theorem entered_saved (framed : Framed program last) {slots : Slots} (room : 2 ≤ slots.length)
    (place : Place) (best : Option Slots) {frontier : Frontier}
    (before : frontier.Saved last place.position) :
    (if best.isNone then reach program place 0 slots frontier else frontier).Saved last
      place.position := by
  split
  · have fresh : Saved last place.position 0 slots :=
      ⟨room, fun positive => absurd positive (Nat.lt_irrefl 0),
        fun beyond => absurd beyond (Nat.not_lt_zero last)⟩
    exact follow_saved framed place _ _ fresh before
  · exact before

theorem Frontier.start_saved (size last position : Nat) : (Frontier.start size).Saved last position :=
  fun _ member => nomatch member

theorem scan_spans (framed : Framed program last) {slots : Slots} (room : 2 ≤ slots.length)
    {position : Nat} {before : Option Char} {best : Option Slots} {frontier : Frontier}
    {text : List Char} {found : Slots} (round : Round last position best frontier)
    (accepted : scan program slots position before best frontier text = some found) :
    Spans found (position + text.length) := by
  induction text generalizing position before best frontier with
  | nil =>
    have entered := entered_saved framed room ⟨position, before, none⟩ best round.threads
    have ended := advance_saved framed ⟨position, before, none⟩ none (Nat.le_refl position)
      (fun thread member => entered thread (List.mem_reverse.mp member))
      ⟨round.best, Frontier.start_saved program.size last position⟩
    exact ended.best found accepted
  | cons c rest ih =>
    have entered := entered_saved framed room ⟨position, before, some c⟩ best round.threads
    have ended := advance_saved framed ⟨position + 1, some c, rest.head?⟩ (some c)
      (Nat.le_succ position) (fun thread member => entered thread (List.mem_reverse.mp member))
      ⟨fun slots known => (round.best slots known).mono (Nat.le_succ position),
        Frontier.start_saved program.size last (position + 1)⟩
    unfold scan at accepted
    simp only at accepted
    generalize advance program _ _ _ best _ = result at ended accepted
    have length : position + (c :: rest).length = position + 1 + rest.length := by
      rw [List.length_cons]
      omega
    rw [length]
    split at accepted
    · exact (ended.best found accepted).mono (Nat.le_add_right _ _)
    · exact ih ended accepted

variable {pattern : Pattern} {text : String}

/-- Every match has a span in the text. -/
theorem span_of_find? {chars : List Char} {found : Match} (read : parse text = .ok pattern)
    (matched : pattern.find? chars = some found) :
    ∃ start stop, found.span? 0 = some (start, stop) ∧ start ≤ stop ∧ stop ≤ chars.length := by
  obtain ⟨last, framed⟩ := framed_of_parse read
  obtain ⟨slots, accepted, rfl⟩ := Option.map_eq_some_iff.mp matched
  have room : 2 ≤ (List.replicate (2 * (pattern.groups + 1)) (none : Option Nat)).length := by
    rw [List.length_replicate]
    omega
  have unseen : Round last 0 none (Frontier.start pattern.program.size) :=
    ⟨by simp, Frontier.start_saved pattern.program.size last 0⟩
  obtain ⟨start, stop, first, second, order, before⟩ := scan_spans framed room unseen accepted
  refine ⟨start, stop, ?_, order, by omega⟩
  simp [Match.span?, first, second]

end AuthGate.Pattern
