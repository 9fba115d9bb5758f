import AuthGate.Header.Forwarded
import AuthGate.Header.HopByHop

namespace AuthGate.Headers

variable {headers left right : Headers} {name other : HeaderName} {names : List HeaderName}

@[simp] theorem values_empty (name : HeaderName) : empty.values name = [] := rfl

@[simp] theorem values_append (headers : Headers) (name other : HeaderName) (value : HeaderValue) :
    (headers.append name value).values other =
      headers.values other ++ if name = other then [value] else [] := by
  by_cases same : name = other <;> simp [append, values, same]

@[simp] theorem values_appendAll (headers : Headers) (name other : HeaderName)
    (added : List HeaderValue) :
    (headers.appendAll name added).values other =
      headers.values other ++ if name = other then added else [] := by
  by_cases same : name = other <;>
    simp [appendAll, values, same, List.filter_map, Function.comp_def]

@[simp] theorem values_erase (headers : Headers) (name other : HeaderName) :
    (headers.erase name).values other = if name = other then [] else headers.values other := by
  by_cases same : name = other
  · subst same
    simp [erase, values, List.filter_filter]
  · have kept : ∀ line : HeaderName × HeaderValue,
        (decide (line.1 = other) && decide (line.1 ≠ name)) = decide (line.1 = other) := by
      intro line
      by_cases here : line.1 = other
      · simp [here, Ne.symm same]
      · simp [here]
    simp only [erase, values, List.filter_filter, kept, if_neg same]

@[simp] theorem values_insert (headers : Headers) (name other : HeaderName) (value : HeaderValue) :
    (headers.insert name value).values other =
      if name = other then [value] else headers.values other := by
  by_cases same : name = other <;> simp [insert, same]

@[simp] theorem values_insertText (headers : Headers) {name other : HeaderName}
    (different : name ≠ other) (text : String) :
    (headers.insertText name text).values other = headers.values other := by
  unfold insertText
  split
  · rw [values_insert, if_neg different]
  · rfl

@[simp] theorem values_replace (headers : Headers) (name other : HeaderName)
    (value : Option HeaderValue) :
    (headers.replace name value).values other =
      if name = other then value.toList else headers.values other := by
  cases value with
  | none => simp [replace]
  | some value => simp [replace]

/-- Erasing names keeps the other lines and their order. -/
theorem eraseAll_lines (headers : Headers) (names : List HeaderName) :
    (headers.eraseAll names).lines = headers.lines.filter (·.1 ∉ names) := by
  induction names generalizing headers with
  | nil => exact (List.filter_eq_self.mpr (by simp)).symm
  | cons name rest ih =>
    have step : headers.eraseAll (name :: rest) = (headers.erase name).eraseAll rest := rfl
    rw [step, ih]
    simp only [erase, List.filter_filter]
    apply List.filter_congr
    intro line _
    by_cases first : line.1 = name <;> simp [first]

theorem values_eraseAll (headers : Headers) (names : List HeaderName) (name : HeaderName) :
    (headers.eraseAll names).values name = if name ∈ names then [] else headers.values name := by
  induction names generalizing headers with
  | nil => simp [eraseAll]
  | cons first rest ih =>
    have step : headers.eraseAll (first :: rest) = (headers.erase first).eraseAll rest := rfl
    rw [step, ih, values_erase]
    by_cases same : first = name
    · simp [same]
    · simp [same, Ne.symm same]

/-- A visible value of `Connection` lists a name, in any case and with blanks around it. -/
def Nominates (headers : Headers) (name : HeaderName) : Prop :=
  ∃ value ∈ headers.values .connection, ∃ text, value.text? = some text ∧
    ∃ entry ∈ listEntries text, HeaderName.parse entry = some name

theorem mem_nominated_iff : name ∈ headers.nominated ↔ headers.Nominates name := by
  simp only [nominated, List.mem_filterMap, List.mem_flatMap]
  constructor
  · rintro ⟨entry, ⟨text, ⟨value, listed, visible⟩, member⟩, parsed⟩
    exact ⟨value, listed, text, visible, entry, member, parsed⟩
  · rintro ⟨value, listed, text, visible, entry, member, parsed⟩
    exact ⟨entry, ⟨text, ⟨value, listed, visible⟩, member⟩, parsed⟩

instance : Decidable (headers.Nominates name) := decidable_of_iff _ mem_nominated_iff

/-- Only fields of one connection are taken away from a message that is passed on. -/
theorem values_stripHopByHop (passed : name ∉ hopByHop) :
    headers.stripHopByHop.values name =
      if headers.Nominates name then [] else headers.values name := by
  rw [stripHopByHop, values_eraseAll, if_neg passed, values_eraseAll]
  simp only [mem_nominated_iff]

/-- Two lists of fields that differ at most in fields of the given names. -/
def AgreeBeyond (names : List HeaderName) (left right : Headers) : Prop :=
  left.eraseAll names = right.eraseAll names

theorem agreeBeyond_iff : AgreeBeyond names left right ↔
    left.lines.filter (·.1 ∉ names) = right.lines.filter (·.1 ∉ names) := by
  rw [← eraseAll_lines, ← eraseAll_lines]
  constructor
  · intro agree
    exact congrArg lines agree
  · intro same
    show left.eraseAll names = right.eraseAll names
    cases leftErased : left.eraseAll names with
    | mk leftLines =>
      cases rightErased : right.eraseAll names with
      | mk rightLines => simpa [leftErased, rightErased] using same

namespace AgreeBeyond

theorem values (agree : AgreeBeyond names left right) (beyond : name ∉ names) :
    left.values name = right.values name := by
  have kept (headers : Headers) :
      headers.values name = ((headers.eraseAll names).lines.filter (·.1 = name)).map (·.2) := by
    rw [eraseAll_lines, List.filter_filter, Headers.values]
    congr 1
    apply List.filter_congr
    intro line _
    by_cases same : line.1 = name
    · simp [same, beyond]
    · simp [same]
  rw [kept left, kept right, agree]

theorem first? (agree : AgreeBeyond names left right) (beyond : name ∉ names) :
    left.first? name = right.first? name := by
  rw [Headers.first?, Headers.first?, agree.values beyond]

theorem firstText? (agree : AgreeBeyond names left right) (beyond : name ∉ names) :
    left.firstText? name = right.firstText? name := by
  rw [Headers.firstText?, Headers.firstText?, agree.first? beyond]

theorem append (agree : AgreeBeyond names left right) (name : HeaderName) (value : HeaderValue) :
    AgreeBeyond names (left.append name value) (right.append name value) := by
  have same := agreeBeyond_iff.mp agree
  apply agreeBeyond_iff.mpr
  rw [Headers.append, Headers.append, List.filter_append, List.filter_append, same]

theorem erase (agree : AgreeBeyond names left right) (name : HeaderName) :
    AgreeBeyond names (left.erase name) (right.erase name) := by
  have same := agreeBeyond_iff.mp agree
  have swap (headers : Headers) : (headers.erase name).lines.filter (·.1 ∉ names) =
      (headers.lines.filter (·.1 ∉ names)).filter (·.1 ≠ name) := by
    simp only [Headers.erase, List.filter_filter, Bool.and_comm]
  apply agreeBeyond_iff.mpr
  rw [swap left, swap right, same]

theorem eraseAll (agree : AgreeBeyond names left right) (erased : List HeaderName) :
    AgreeBeyond names (left.eraseAll erased) (right.eraseAll erased) := by
  induction erased generalizing left right with
  | nil => exact agree
  | cons name rest ih => exact ih (agree.erase name)

theorem insert (agree : AgreeBeyond names left right) (name : HeaderName) (value : HeaderValue) :
    AgreeBeyond names (left.insert name value) (right.insert name value) :=
  (agree.erase name).append name value

theorem insertText (agree : AgreeBeyond names left right) (name : HeaderName) (text : String) :
    AgreeBeyond names (left.insertText name text) (right.insertText name text) := by
  unfold Headers.insertText
  split
  · exact agree.insert name _
  · exact agree

theorem stripHopByHop (agree : AgreeBeyond names left right) (beyond : .connection ∉ names) :
    AgreeBeyond names left.stripHopByHop right.stripHopByHop := by
  have nominated : left.nominated = right.nominated := by
    rw [nominated, nominated, agree.values beyond]
  rw [Headers.stripHopByHop, Headers.stripHopByHop, nominated]
  exact (agree.eraseAll _).eraseAll _

theorem setForwarded (agree : AgreeBeyond names left right) (client : Client) (trust : Bool)
    (beyond : .forwardedFor ∉ names) :
    AgreeBeyond names (left.setForwarded client trust) (right.setForwarded client trust) := by
  unfold Headers.setForwarded
  apply AgreeBeyond.insertText
  apply AgreeBeyond.insertText
  cases client.ip with
  | some ip =>
    have chain : left.forwardedChain trust ip = right.forwardedChain trust ip := by
      rw [forwardedChain, forwardedChain, agree.firstText? beyond]
    simp only [chain]
    exact agree.insertText .forwardedFor _
  | none =>
    cases trust with
    | true => exact agree
    | false => exact agree.erase .forwardedFor

theorem erase_left (agree : AgreeBeyond names left right) (member : name ∈ names) :
    AgreeBeyond names (left.erase name) right := by
  have same := agreeBeyond_iff.mp agree
  apply agreeBeyond_iff.mpr
  rw [← same, Headers.erase, List.filter_filter]
  apply List.filter_congr
  intro line _
  by_cases erased : line.1 = name
  · simp [erased, member]
  · simp [erased]

theorem insertText_left (agree : AgreeBeyond names left right) (member : name ∈ names)
    (text : String) : AgreeBeyond names (left.insertText name text) right := by
  unfold Headers.insertText
  split
  · have same := agreeBeyond_iff.mp (agree.erase_left member)
    apply agreeBeyond_iff.mpr
    simpa [Headers.insert, Headers.append, member] using same
  · exact agree

end AgreeBeyond

/-- The names of the fields that tell of a client behind other proxies. -/
def forwardedNames : List HeaderName := [.forwardedFor, .forwardedProto, .forwardedHost]

/-- The client is described by these three fields alone, and all others stay as they are. -/
theorem agreeBeyond_setForwarded (headers : Headers) (client : Client) (trust : Bool) :
    AgreeBeyond forwardedNames (headers.setForwarded client trust) headers := by
  have same : AgreeBeyond forwardedNames headers headers := rfl
  unfold setForwarded
  apply AgreeBeyond.insertText_left _ (by decide)
  apply AgreeBeyond.insertText_left _ (by decide)
  cases client.ip with
  | some ip => exact same.insertText_left (by decide) _
  | none =>
    cases trust with
    | true => exact same
    | false => exact same.erase_left (by decide)

theorem values_setForwarded (headers : Headers) (client : Client) (trust : Bool)
    (address : .forwardedFor ≠ name) (proto : .forwardedProto ≠ name)
    (host : .forwardedHost ≠ name) :
    (headers.setForwarded client trust).values name = headers.values name := by
  apply (agreeBeyond_setForwarded headers client trust).values
  simp [forwardedNames, address.symm, proto.symm, host.symm]

end AuthGate.Headers
