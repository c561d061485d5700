/-!
Text inside a literal. Only the characters that could end the literal can be escaped, each by a
backslash before it; any other backslash stands for itself.
-/

namespace TagSieve.Escaped
variable {stop : Char → Bool}

/-- Writes a backslash before every character that could end the literal. -/
def encode (stop : Char → Bool) : List Char → List Char
  | [] => []
  | c :: rest => if stop c then '\\' :: c :: encode stop rest else c :: encode stop rest

/-- Reads up to the first character that ends the literal. Gives the text and what follows, from
that character on; nothing follows a literal that never ends. -/
def decode (stop : Char → Bool) : List Char → List Char × List Char
  | [] => ([], [])
  | [c] => if stop c then ([], [c]) else ([c], [])
  | c :: d :: rest =>
    if stop c then ([], c :: d :: rest)
    else if c = '\\' && stop d then
      let (text, rest) := decode stop rest
      (d :: text, rest)
    else
      let (text, rest) := decode stop (d :: rest)
      (c :: text, rest)

/-- How many characters `decode` takes. -/
def extent (stop : Char → Bool) : List Char → Nat
  | [] => 0
  | [c] => if stop c then 0 else 1
  | c :: d :: rest =>
    if stop c then 0
    else if c = '\\' && stop d then extent stop rest + 2
    else extent stop (d :: rest) + 1

/-- What `decode` takes and what follows make up the text. -/
theorem extent_add_length (cs : List Char) :
    extent stop cs + (decode stop cs).2.length = cs.length := by
  fun_induction extent stop cs with
  | case1 => rfl
  | case2 c h => simp [decode, h]
  | case3 c h => simp [decode, h]
  | case4 c d rest h => simp [decode, h]
  | case5 c d rest h hd ih => simp only [decode, h, hd]; simp; omega
  | case6 c d rest h hd ih => simp only [decode, h, hd]; simp; simp at ih; omega

end TagSieve.Escaped
