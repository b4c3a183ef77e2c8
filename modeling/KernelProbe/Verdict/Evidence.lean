import KernelProbe.Text.Numeral

/-!
# Evidence

What a probe saw, as named values in the order in which they were noted. A name may come twice; a
look-up finds the first.
-/

namespace KernelProbe

/-- Named values in the order in which they were noted. -/
structure Evidence where
  /-- Names and values. -/
  entries : List (String × String)
deriving DecidableEq, Repr

namespace Evidence

/-- Nothing noted yet. -/
def empty : Evidence := ⟨[]⟩

/-- Note a value behind all others. -/
def push (e : Evidence) (key value : String) : Evidence := ⟨e.entries ++ [(key, value)]⟩

/-- Note a number. -/
def pushNat (e : Evidence) (key : String) (n : Nat) : Evidence := e.push key (Text.decimal n)

/-- Note a signed number. -/
def pushInt (e : Evidence) (key : String) (i : Int) : Evidence := e.push key (Text.integer i)

/-- The first value of a name. -/
def get? (e : Evidence) (key : String) : Option String := e.entries.lookup key

/-- Whether nothing has been noted. -/
def isEmpty (e : Evidence) : Bool := e.entries.isEmpty

@[simp] theorem entries_empty : empty.entries = [] := rfl

@[simp] theorem entries_push (e : Evidence) (key value : String) :
    (e.push key value).entries = e.entries ++ [(key, value)] := rfl

@[simp] theorem entries_pushNat (e : Evidence) (key : String) (n : Nat) :
    (e.pushNat key n).entries = e.entries ++ [(key, Text.decimal n)] := rfl

@[simp] theorem entries_pushInt (e : Evidence) (key : String) (i : Int) :
    (e.pushInt key i).entries = e.entries ++ [(key, Text.integer i)] := rfl

end Evidence

end KernelProbe
