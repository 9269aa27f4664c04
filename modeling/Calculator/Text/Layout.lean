namespace Calculator.Text

def isWhiteSpace (c : Char) : Bool :=
  let code := c.toNat
  (0x09 ≤ code && code ≤ 0x0D) || code == 0x20 || code == 0x85 || code == 0xA0 || code == 0x1680 ||
    (0x2000 ≤ code && code ≤ 0x200A) || code == 0x2028 || code == 0x2029 || code == 0x202F ||
    code == 0x205F || code == 0x3000

-- The blank characters of a line: white space and the four separators among the control
-- characters. Every place that drops or trims what stands in a line uses this one set.
def isBlank (c : Char) : Bool := isWhiteSpace c || (0x1C ≤ c.toNat && c.toNat ≤ 0x1F)

def removeBlanks (text : List Char) : List Char := text.filter (!isBlank ·)

def trimWhere (drop : Char → Bool) (text : List Char) : List Char :=
  ((text.dropWhile drop).reverse.dropWhile drop).reverse

def trim (text : List Char) : List Char := trimWhere isBlank text

def AllBlank (text : List Char) : Prop := ∀ c ∈ text, isBlank c = true

instance (text : List Char) : Decidable (AllBlank text) := List.decidableBAll (isBlank · = true) text

def trimmed (text : String) : String := String.ofList (trim text.toList)

theorem removeBlanks_append (left right : List Char) :
    removeBlanks (left ++ right) = removeBlanks left ++ removeBlanks right := by
  simp [removeBlanks]

theorem removeBlanks_eq_self {text : List Char} (clean : ∀ c ∈ text, isBlank c = false) :
    removeBlanks text = text :=
  List.filter_eq_self.mpr fun c member => by simp [clean c member]

def openLine (c : Char) : List (List Char) → List (List Char)
  | [] => [[c]]
  | line :: later => (c :: line) :: later

-- A person ends a line with a newline alone; a document may break lines in other ways.
def typedLines : List Char → List (List Char)
  | [] => []
  | c :: rest => if c = '\n' then [] :: typedLines rest else openLine c (typedLines rest)

def isLineBreak (c : Char) : Bool :=
  let code := c.toNat
  (0x0A ≤ code && code ≤ 0x0D) || (0x1C ≤ code && code ≤ 0x1E) || code == 0x85 ||
    code == 0x2028 || code == 0x2029

def documentLines : List Char → List (List Char)
  | [] => []
  | '\r' :: '\n' :: rest => [] :: documentLines rest
  | c :: rest => if isLineBreak c then [] :: documentLines rest else openLine c (documentLines rest)

end Calculator.Text
