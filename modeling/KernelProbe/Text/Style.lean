/-!
# Terminal styles

A style is selected by escape sequences, each with a list of numbers. `Style.enclose` puts a text
between the sequences that select its style and the one that resets it. `Style.paint` also puts the
style behind every reset inside the text, so that it ends only where the text does.
-/

namespace KernelProbe.Text

/-- A terminal style: the codes that select it, such as `1;36`. -/
structure Style where
  /-- What stands between the opening bracket and the final `m` of each escape sequence. -/
  codes : List String
deriving DecidableEq, Repr

namespace Style

/-- Bold. -/
def bold : Style := ⟨["1"]⟩

/-- Bold cyan, for headings. -/
def cyanBold : Style := ⟨["1;36"]⟩

/-- Bold green, for what passed. -/
def greenBold : Style := ⟨["1;32"]⟩

/-- Bold red, for what failed. -/
def redBold : Style := ⟨["1;31"]⟩

/-- Bold yellow, for what was skipped. -/
def yellowBold : Style := ⟨["1;33"]⟩

/-- The escape sequences that select the style. -/
def start (style : Style) : List Char :=
  style.codes.flatMap fun code => '\x1b' :: '[' :: (code.toList ++ ['m'])

/-- The escape sequence that ends every style. -/
def reset : List Char := ['\x1b', '[', '0', 'm']

/-- A text in the style, up to the first reset that it holds. -/
def enclose (style : Style) (text : String) : String :=
  String.ofList (style.start ++ text.toList ++ reset)

/-- Put `again` behind every reset in a text. -/
def afterResets (again : List Char) : List Char → List Char
  | [] => []
  | '\x1b' :: '[' :: '0' :: 'm' :: rest => reset ++ again ++ afterResets again rest
  | c :: rest => c :: afterResets again rest

/-- A text in the style, or as it is when `color` is off. -/
def paint (color : Bool) (style : Style) (text : String) : String :=
  if color then
    String.ofList (style.start ++ afterResets style.start text.toList ++ reset)
  else text

@[simp] theorem paint_false (style : Style) (text : String) : style.paint false text = text := rfl

end Style

end KernelProbe.Text
