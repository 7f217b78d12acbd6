import Emend.Text.Lines
import Emend.Text.Utf8

/-!
# Syntax trees

The tree of a parsed source text. Spans count the bytes of the text's UTF-8 form; this module also says
which character and which line a byte belongs to.
-/

namespace Emend

/-- A node of a syntax tree. -/
structure SyntaxTree where
  /-- What the grammar calls the node. -/
  kind : String
  /-- The node is more than punctuation. -/
  named : Bool
  /-- The role of the node in its parent. -/
  role : Option String
  startByte : Nat
  stopByte : Nat
  children : List SyntaxTree := []
  deriving Inhabited

namespace SyntaxTree

/-- The first child in a role. -/
def child? (t : SyntaxTree) (role : String) : Option SyntaxTree :=
  t.children.find? (·.role == some role)

/-- How many children are more than punctuation. -/
def namedCount (t : SyntaxTree) : Nat := t.children.countP (·.named)

mutual

/-- How many nodes the tree has. -/
def size : SyntaxTree → Nat
  | ⟨_, _, _, _, _, children⟩ => sizeOfAll children + 1

/-- How many nodes there are in several trees. -/
def sizeOfAll : List SyntaxTree → Nat
  | [] => 0
  | t :: rest => t.size + sizeOfAll rest

end

theorem sizeOfAll_append (a b : List SyntaxTree) :
    sizeOfAll (a ++ b) = sizeOfAll a + sizeOfAll b := by
  induction a with
  | nil => simp [sizeOfAll]
  | cons t rest ih => simp [sizeOfAll, ih, Nat.add_assoc]

theorem size_eq (t : SyntaxTree) : t.size = sizeOfAll t.children + 1 := by
  cases t
  rfl

theorem size_le_sizeOfAll {t : SyntaxTree} {trees : List SyntaxTree} (h : t ∈ trees) :
    t.size ≤ sizeOfAll trees := by
  induction trees with
  | nil => simp at h
  | cons u rest ih =>
    rcases List.mem_cons.1 h with rfl | h
    · simp [sizeOfAll]
    · have := ih h
      simp only [sizeOfAll]
      omega

theorem size_child?_lt {t c : SyntaxTree} {role : String} (h : t.child? role = some c) :
    c.size < t.size := by
  have hm : c ∈ t.children := List.mem_of_find?_eq_some h
  have := size_le_sizeOfAll hm
  rw [size_eq t]
  omega

end SyntaxTree

/-- A source text together with its bytes. -/
structure Source where
  text : List Char
  bytes : List UInt8

namespace Source

/-- The source of a text. -/
def ofText (text : List Char) : Source := ⟨text, Text.encode text⟩

/-- The text between two bytes; what is cut apart stands as replacement characters. -/
def between (s : Source) (start stop : Nat) : String :=
  String.ofList (Text.decodeLossy ((s.bytes.drop start).take (stop - start)))

/-- The number of the line that a byte lies in. -/
def lineOfByte (s : Source) (byte : Nat) : Nat := (s.bytes.take byte).count 10

/-- The character that a byte of a text belongs to; behind the last byte, the end of the text. -/
def characterOf : List Char → Nat → Nat
  | [], _ => 0
  | c :: rest, byte =>
    if byte < Text.byteWidth c then 0 else characterOf rest (byte - Text.byteWidth c) + 1

/-- The offset of the character that a byte belongs to. Where every character is one byte there is
nothing to look up. -/
def offsetOfByte (s : Source) (byte : Nat) : Nat :=
  if s.bytes.length = s.text.length then byte else characterOf s.text byte

end Source

end Emend
