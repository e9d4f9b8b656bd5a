import WayBalancer.Text
/-!
# HttpHeaders — header lists and the lists of members they carry

A message's header list in receive order (`crates/proto-http/src/lib.rs`).  Names are compared without ASCII case, so
every reading of a list goes through the lines of one name, `linesOf`; the comma-separated members of those lines are
its tokens.
-/
namespace WayBalancer

open Str

structure HttpHeader where
  name : Text
  value : Text
deriving DecidableEq, Repr

def HttpHeader.isNamed (h : HttpHeader) (name : Text) : Bool := eqIgnoreCase h.name name

variable (hs : List HttpHeader) (name : Text)

def linesOf : List HttpHeader := hs.filter (·.isNamed name)

/-- The trimmed members of every line of a name, empty ones included. -/
def membersOf : List Text :=
  ((linesOf hs name).flatMap (fun h => h.value.splitOn ',')).map trim

/-- The trimmed members of every line of a name, empty ones dropped. -/
def tokensOf : List Text := (membersOf hs name).filter (fun t => !t.isEmpty)

def transferCodingTokens : List Text := tokensOf hs (lit "transfer-encoding")

def connectionTokens : List Text := (tokensOf hs (lit "connection")).map lower

def headerValueContainsToken (headerName token : Text) : Bool :=
  (membersOf hs headerName).any (fun candidate => eqIgnoreCase candidate token)

def hasHeader : Bool := hs.any (·.isNamed name)

def extractHostHeader : Option Text := (hs.find? (·.isNamed (lit "host"))).map (·.value)

/-! ## Readings of one name -/

theorem linesOf_append (a b : List HttpHeader) (name : Text) : linesOf (a ++ b) name = linesOf a name ++ linesOf b name :=
  List.filter_append ..

theorem hasHeader_eq_lines : hasHeader hs name = !(linesOf hs name).isEmpty := by
  unfold hasHeader linesOf
  induction hs with
  | nil => rfl
  | cons h hs ih =>
    rw [List.any_cons, ih, List.filter_cons]
    cases h.isNamed name <;> rfl

theorem membersOf_of_lines_nil {hs : List HttpHeader} {name : Text} (h : linesOf hs name = []) : membersOf hs name = [] := by
  unfold membersOf; rw [h]; rfl

variable {a b : List HttpHeader}

theorem membersOf_congr {name : Text} (h : linesOf a name = linesOf b name) : membersOf a name = membersOf b name := by
  unfold membersOf; rw [h]

theorem tokensOf_congr {name : Text} (h : linesOf a name = linesOf b name) : tokensOf a name = tokensOf b name := by
  unfold tokensOf; rw [membersOf_congr h]

theorem containsToken_eq_tokens (token : Text) (ht : token ≠ []) :
    headerValueContainsToken hs name token = (tokensOf hs name).any (fun t => eqIgnoreCase t token) := by
  unfold headerValueContainsToken tokensOf
  rw [List.any_filter]
  congr 1; funext t
  cases t with
  | nil =>
    have : eqIgnoreCase [] token = false := by
      cases token with
      | nil => exact absurd rfl ht
      | cons c cs => rfl
    rw [this]; rfl
  | cons c cs => simp

end WayBalancer
