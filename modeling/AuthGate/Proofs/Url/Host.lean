import AuthGate.Proofs.Address.Text
import AuthGate.Proofs.Domain.Name
import AuthGate.Proofs.Uri.Authority
import AuthGate.Url.Parser

namespace AuthGate
open Text

namespace Host

/-- A host that has been read: a name without forbidden characters, or an address. -/
inductive Proper : Host → Prop where
  | name {text : String} (chars : ∀ c ∈ text.toList, Domain.isNameChar c = true) :
      Proper (.name text)
  | v4 (address : UInt32) : Proper (.ip (.v4 address))
  | v6 {pieces : List UInt16} (whole : pieces.length = 8) : Proper (.ip (.v6 pieces))

/-- The characters of names that no authority of a URI holds. -/
def unwritableChars : List Char := "\"`\x7b\x7d".toList

/-- The host can be written into a URI. -/
def Writable (text : String) : Prop := ∀ c ∈ text.toList, c ∉ unwritableChars

theorem isPartChar_of_isNameChar {c : Char} (named : Domain.isNameChar c = true)
    (writable : c ∉ unwritableChars) : Authority.isPartChar c = true := by
  have each : ∀ code < 128, Domain.isNameChar (Char.ofNat code) = true →
      Char.ofNat code ∉ unwritableChars → Authority.isPartChar (Char.ofNat code) = true := by
    decide +kernel
  exact Domain.isNameChar_forall (P := fun c => c ∉ unwritableChars →
    Authority.isPartChar c = true) each named writable

instance (text : String) : Decidable (Writable text) :=
  decidable_of_iff (text.toList.all (!unwritableChars.contains ·) = true) (by simp [Writable])

theorem writable_of_isReadable {text : String}
    (readable : ∀ c ∈ text.toList, Authority.isReadable c = true) : Writable text := by
  have refused : ∀ c ∈ unwritableChars, (!Authority.isReadable c) = true :=
    List.all_eq_true.mp (by decide)
  intro c member unwritable
  have unreadable := refused c unwritable
  simp [readable c member] at unreadable

/-- The digits of addresses and ports stand for themselves. -/
theorem part_of_digit {c : Char} (digit : c ∈ Ip.digitChars) :
    Authority.isPartChar c = true ∧ c ≠ ':' ∧ c ≠ '%' := by
  have all : ∀ c ∈ Ip.digitChars, (Authority.isPartChar c && c != ':' && c != '%') = true :=
    List.all_eq_true.mp (by decide)
  simpa [and_assoc] using all c digit

/-- A host that can be written is passed over by a scan, and can have a port behind it. -/
theorem Proper.ready {host : Host} (proper : host.Proper) (nonempty : host.text ≠ "")
    (writable : Writable host.text) (behindAt : Bool) :
    ∃ last, host.text.toList.foldlM Authority.Scan.step { endsWithAt := behindAt } = .ok last ∧
      last.Ready := by
  have written : host.text.toList ≠ [] := by simpa using nonempty
  cases proper with
  | @name text chars =>
    have part : ∀ c ∈ text.toList, Authority.isPartChar c = true := fun c member =>
      isPartChar_of_isNameChar (chars c member) (writable c member)
    have noColon : ':' ∉ text.toList := fun member => absurd (chars _ member) (by decide)
    have noPercent : '%' ∉ text.toList := fun member => absurd (chars _ member) (by decide)
    exact Authority.ready_of_name part noColon noPercent written behindAt
  | v4 address =>
    have each : ∀ c ∈ (Ip.dotted (Ip.octets address)).toList,
        Authority.isPartChar c = true ∧ c ≠ ':' ∧ c ≠ '%' := by
      intro c member
      rcases Ip.mem_dotted member with inside | rfl
      · exact part_of_digit inside
      · decide
    exact Authority.ready_of_name (fun c member => (each c member).1)
      (fun member => (each _ member).2.1 rfl) (fun member => (each _ member).2.2 rfl) written
      behindAt
  | @v6 pieces whole =>
    have part : ∀ c ∈ (Ip.compressed pieces).toList, Authority.isPartChar c = true := by
      intro c member
      rcases Ip.mem_compressed member with inside | rfl
      · exact (part_of_digit inside).1
      · decide
    have shape : (Host.text (.ip (.v6 pieces))).toList =
        '[' :: (Ip.compressed pieces).toList ++ [']'] := by
      simp [Host.text]
    rw [shape]
    exact Authority.ready_of_brackets part (Ip.count_compressed_le whole) behindAt

/-- A host is within its authority. -/
theorem Proper.isEnd_eq_false {host : Host} (proper : host.Proper) :
    ∀ c ∈ host.text.toList, Authority.isEnd c = false := by
  have digit {c : Char} (inside : c ∈ Ip.digitChars) : Authority.isEnd c = false :=
    Authority.isEnd_of_isPartChar (part_of_digit inside).1
  have named {c : Char} : Domain.isNameChar c = true → Authority.isEnd c = false :=
    Domain.isNameChar_forall (P := fun c => Authority.isEnd c = false) (by decide +kernel)
  cases proper with
  | name chars => exact fun c member => named (chars c member)
  | v4 address =>
    intro c member
    rcases Ip.mem_dotted member with inside | rfl
    · exact digit inside
    · decide
  | @v6 pieces whole =>
    intro c member
    have either : c = '[' ∨ c ∈ (Ip.compressed pieces).toList ∨ c = ']' := by
      simpa [Host.text] using member
    rcases either with rfl | inside | rfl
    · decide
    · rcases Ip.mem_compressed inside with inside | rfl
      · exact digit inside
      · decide
    · decide

end Host

namespace Url

theorem proper_of_bracketed {text : List Char} {host : Host} (read : bracketed text = .ok host) :
    host.Proper := by
  unfold bracketed at read
  split at read
  · split at read
    · rename_i pieces parsed
      cases read
      exact .v6 (Ip.length_of_v6? parsed)
    · cases read
  · cases read

/-- The host of a URL of the web is a proper one. -/
theorem proper_of_specialHost {text : List Char} {host : Host}
    (read : specialHost text = .ok host) : host.Proper := by
  unfold specialHost at read
  split at read
  · exact proper_of_bracketed read
  · split at read
    · cases read
    · rename_i name named
      obtain ⟨_, _, domain⟩ := Option.bind_eq_some_iff.mp named
      split at read
      · cases read
      · split at read
        · split at read
          · cases read
            exact .v4 _
          · cases read
        · cases read
          exact .name (by simpa using Domain.isNameChar_of_toAscii? domain)

end Url
end AuthGate
