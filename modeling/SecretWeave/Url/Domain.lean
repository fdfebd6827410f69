import SecretWeave.Url.Domain.Composition
import SecretWeave.Url.Domain.Form
import SecretWeave.Url.Domain.Joining
import SecretWeave.Url.Domain.Punycode
import SecretWeave.Url.Host

/-!
# Domains

Under the schemes of the web and of files a host is a domain: labels with points between them, in
a normal form of their characters. A label may be an encoded one. A domain whose last label is a
number has to be an address of four octets, written as at most four numbers.

Main facts: an address has at least one number and at most four (`length_le_of_isAddress`), and
a domain is never empty (`ne_nil_of_readDomain`).
-/

namespace SecretWeave.Url

namespace Domain

/-! ## 1. Labels -/

def isDenied (c : Char) : Bool :=
  breaksName c || c == '%' || c.toNat < 0x20 || c.toNat == 0x7F

def encodedMark : Text := "xn--".toList

/-- The label that a written one stands for: a decoded one has other characters than those of ASCII
and is in its normal form. -/
def readLabel? (s : Text) : Option Text :=
  match Text.after? encodedMark s with
  | none => some s
  | some encoded =>
    match Punycode.decode? encoded with
    | none => none
    | some label =>
      if label.all isAscii || !label.all isKept || !isComposed label ||
          (Text.after? encodedMark label).isSome then none
      else some label

def isLabel (label : Text) : Bool :=
  !label.any isDenied && !label.head?.any isMark && joinersHold [] label

/-- Whether labels keep to the rules for their directions, if there is cause for them. -/
def directionsHold (labels : List Text) : Bool :=
  let directions := labels.map fun l => l.map Direction.of
  !directions.any (fun ds => ds.any Direction.isFromRight) || directions.all Direction.holds

def labels? (s : Text) : Option (List Text) :=
  match form s with
  | none => none
  | some s =>
    match (Text.split '.' (composed s)).mapM readLabel? with
    | none => none
    | some labels => if labels.all isLabel && directionsHold labels then some labels else none

/-! ## 2. Addresses -/

def addressNumber? (s : Text) : Option Nat :=
  let base := match s with
    | '0' :: 'x' :: ds => (16, ds)
    | '0' :: 'X' :: ds => (16, ds)
    | '0' :: d :: ds => (8, d :: ds)
    | ds => (10, ds)
  if base.2.isEmpty then some 0 else Text.readDigits? base.1 base.2

def counted (labels : List Text) : List Text :=
  if 1 < labels.length ∧ labels.getLast? = some [] then labels.dropLast else labels

def isNumeric (label : Text) : Bool :=
  !label.isEmpty &&
    (label.all Char.isDigit ||
      match label with
      | '0' :: x :: ds => (x == 'x' || x == 'X') && ds.all fun c => (Text.hexDigit? c).isSome
      | _ => false)

/-- Whether numbers make an address: the last one fills the octets that the others leave. -/
def isAddress : List (Option Nat) → (room : Nat) → Bool
  | [], _ => false
  | [some n], room => 0 < room && n < Nat.pow 256 room
  | some n :: ns, room => 1 < room && n < 256 && isAddress ns (room - 1)
  | none :: _, _ => false

def failsAddress (labels : List Text) : Bool :=
  (labels.getLast?.any isNumeric) &&
    !isAddress (labels.map fun l => if l.isEmpty then none else addressNumber? l) 4

theorem length_le_of_isAddress {ns : List (Option Nat)} {room : Nat}
    (h : isAddress ns room = true) : 0 < ns.length ∧ ns.length ≤ room := by
  induction ns generalizing room with
  | nil => simp [isAddress] at h
  | cons n ns ih =>
    cases n with
    | none => simp [isAddress] at h
    | some n =>
      cases ns with
      | nil =>
        simp only [isAddress, Bool.and_eq_true, decide_eq_true_eq] at h
        exact ⟨Nat.zero_lt_one, h.1⟩
      | cons m ns =>
        simp only [isAddress, Bool.and_eq_true, decide_eq_true_eq] at h
        have := ih h.2
        simp only [List.length_cons] at this ⊢
        omega

end Domain

/-! ## 3. Hosts -/

def readDomain : Text → Except Flaw Text
  | '[' :: s => readBracketed s
  | s =>
    match Domain.labels? (Text.decode (Percent.octets s)) with
    | none => .error .badDomain
    | some labels =>
      let domain := ['.'].intercalate labels
      if domain = [] then .error .emptyHost
      else if Domain.failsAddress (Domain.counted labels) then .error .badIpv4
      else .ok domain

theorem ne_nil_of_readDomain {s d : Text} (h : readDomain s = .ok d) : d ≠ [] := by
  unfold readDomain at h
  split at h
  · unfold readBracketed at h
    split at h
    · split at h
      · obtain rfl := Except.ok.inj h
        simp
      · simp at h
    · simp at h
  · split at h
    · simp at h
    · dsimp only at h
      split at h
      · simp at h
      · rename_i hd
        split at h
        · simp at h
        · obtain rfl := Except.ok.inj h
          exact hd

end SecretWeave.Url
