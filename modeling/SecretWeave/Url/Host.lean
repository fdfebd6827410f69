import SecretWeave.Url.Ipv6
import SecretWeave.Url.Percent

/-!
# Hosts of URLs

A host in brackets is an address of eight groups. Under most schemes another host is a name that is
kept as it is, with foreign characters encoded; under the schemes of the web and of files it is
a domain.

Main fact: a name of unreserved characters is its own host (`readName_eq_self`).
-/

namespace SecretWeave.Url

inductive Flaw where
  | noScheme
  | emptyHost
  | badHost
  | badDomain
  | badNumber
  | badIpv6
  | badIpv4
  deriving DecidableEq, Repr

def Flaw.message : Flaw → Text
  | .noScheme => "relative URL without a base".toList
  | .emptyHost => "empty host".toList
  | .badHost => "invalid domain character".toList
  | .badDomain => "invalid international domain name".toList
  | .badNumber => "invalid port number".toList
  | .badIpv6 => "invalid IPv6 address".toList
  | .badIpv4 => "invalid IPv4 address".toList

def breaksName (c : Char) : Bool :=
  "\x00\t\n\r #/:<>?@[\\]^|".toList.contains c

def readBracketed (s : Text) : Except Flaw Text :=
  if s.getLast? = some ']' then
    match Ipv6.ofText? s.dropLast with
    | some gs => .ok ('[' :: Ipv6.text gs ++ [']'])
    | none => .error .badIpv6
  else .error .badIpv6

def readName : Text → Except Flaw Text
  | '[' :: s => readBracketed s
  | s => if s.any breaksName then .error .badHost else .ok (Percent.encode Percent.isForeign s)

theorem readName_eq_self {s : Text}
    (h : ∀ c ∈ s, breaksName c = false ∧ Percent.isForeign c = false) : readName s = .ok s := by
  have hb : s.any breaksName = false := by
    simp only [List.any_eq_false]
    exact fun c hc => by simp [(h c hc).1]
  cases s with
  | nil => rfl
  | cons c r =>
    unfold readName
    split
    · rename_i he
      obtain ⟨rfl, rfl⟩ := List.cons.inj he
      exact absurd (h '[' (List.mem_cons_self ..)).1 (by decide)
    · rw [hb, Percent.encode_eq_self fun x hx => (h x hx).2]
      rfl

end SecretWeave.Url
