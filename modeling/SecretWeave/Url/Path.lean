import SecretWeave.Url.Percent

/-!
# Paths of URLs

A path is a list of segments, each behind a slash. A segment of one dot stands for nothing and one
of two dots takes the segment before it away, both when the URL is read; a path that ends in such a
segment ends in a slash. A drive letter is never taken away.

Main fact: segments without dots stay as they are (`normalize_eq_self`).
-/

namespace SecretWeave.Url

def isDot (s : Text) : Bool :=
  [".", "%2e", "%2E"].any fun d => d.toList == s

def isDotDot (s : Text) : Bool :=
  ["..", "%2e%2e", "%2e%2E", "%2E%2e", "%2E%2E", "%2e.", "%2E.", ".%2e", ".%2E"].any
    fun d => d.toList == s

def isDrive : Text → Bool
  | [c, d] => c.isAlpha && (d == ':' || d == '|')
  | _ => false

def climb : List Text → List Text
  | [] => []
  | d :: ds => if isDrive d then d :: ds else ds

/-- The segments that are left of a path; `done` holds those passed, innermost first. -/
def normalizeFrom (done : List Text) : List Text → List Text
  | [] => done.reverse
  | [s] =>
    if isDotDot s then ([] :: climb done).reverse
    else if isDot s then ([] :: done).reverse
    else (s :: done).reverse
  | s :: ss =>
    if isDotDot s then normalizeFrom (climb done) ss
    else if isDot s then normalizeFrom done ss
    else normalizeFrom (s :: done) ss

def normalize (ss : List Text) : List Text :=
  normalizeFrom [] ss

theorem normalizeFrom_eq_append {ss : List Text}
    (h : ∀ s ∈ ss, isDot s = false ∧ isDotDot s = false) (done : List Text) :
    normalizeFrom done ss = done.reverse ++ ss := by
  fun_induction normalizeFrom done ss with
  | case1 => simp
  | case2 _ _ hs => simp [h] at hs
  | case3 _ _ _ hs => simp [h] at hs
  | case4 => simp
  | case5 _ s _ _ hs => simp [(h s (List.mem_cons_self ..)).2] at hs
  | case6 _ s _ _ _ hs => simp [(h s (List.mem_cons_self ..)).1] at hs
  | case7 _ s ss _ _ _ ih => simp [ih fun x hx => h x (List.mem_cons_of_mem _ hx)]

theorem normalize_eq_self {ss : List Text}
    (h : ∀ s ∈ ss, isDot s = false ∧ isDotDot s = false) : normalize ss = ss :=
  normalizeFrom_eq_append h []

def pathText (ss : List Text) : Text :=
  ss.flatMap ('/' :: ·)

/-- The path that is written behind a host: nothing, or segments. A missing first slash is added. -/
def readPath : Text → Text
  | [] => []
  | '/' :: s => pathText (normalize (Text.split '/' (Percent.encode Percent.breaksPath s)))
  | s => pathText (normalize (Text.split '/' (Percent.encode Percent.breaksPath s)))

end SecretWeave.Url
