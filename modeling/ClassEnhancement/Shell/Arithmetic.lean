import ClassEnhancement.OrderedMap

/-!
# Arithmetic in scripts

Expressions over integers of 64 bits, with variables that can be assigned.  Operators bind as in
other languages; those of one level group from the left.  A variable that is not set counts as zero.
-/

namespace ClassEnhancement
namespace Shell

/-- Operators with one operand. -/
inductive UnaryOperator where
  | plus | minus | complement | negation
  deriving DecidableEq, Repr

/-- Operators with two operands that are both evaluated. -/
inductive BinaryOperator where
  | add | subtract | multiply | divide | remainder
  | shiftLeft | shiftRight
  | less | lessOrEqual | greater | greaterOrEqual | equal | unequal
  | bitAnd | bitXor | bitOr
  deriving DecidableEq, Repr

/-- An expression. -/
inductive Arithmetic where
  /-- A number. -/
  | number (value : Int)
  /-- The value of a variable. -/
  | variableValue (name : String)
  /-- An operator before its operand. -/
  | unary (operator : UnaryOperator) (operand : Arithmetic)
  /-- An operator between its operands. -/
  | binary (operator : BinaryOperator) (left right : Arithmetic)
  /-- Whether both hold; the second one is evaluated if the first one holds. -/
  | both (left right : Arithmetic)
  /-- Whether one holds; the second one is evaluated if the first one does not hold. -/
  | either (left right : Arithmetic)
  /-- One of two, by a condition. -/
  | choice (condition positive negative : Arithmetic)
  /-- An assignment, which may combine the value with the one before. -/
  | assign (name : String) (operator : Option BinaryOperator) (value : Arithmetic)
  deriving Repr

/-- Why an expression has no value. -/
inductive ArithmeticError where
  /-- It is no expression. -/
  | malformed
  /-- Something is divided by zero. -/
  | divisionByZero
  /-- The value of a variable is no number. -/
  | illegalNumber (text : String)
  deriving DecidableEq, Repr

/-- Wording of an arithmetic error, for the text of an expression. -/
def ArithmeticError.message (expression : String) : ArithmeticError → String
  | .malformed => s!"arithmetic expression: expecting primary: \"{expression}\""
  | .divisionByZero => s!"arithmetic expression: division by zero: \"{expression}\""
  | .illegalNumber text => s!"Illegal number: {text}"

namespace Arithmetic

/-! ## Numbers -/

/-- The number that digits spell in a base, if all of them are digits of that base. -/
def natOfDigits? (base : Nat) (digits : List Char) : Option Nat :=
  if digits.isEmpty then none
  else
    digits.foldlM (fun value c =>
      let digit :=
        if c.isDigit then c.toNat - '0'.toNat
        else if 'a' ≤ c ∧ c ≤ 'f' then c.toNat - 'a'.toNat + 10
        else if 'A' ≤ c ∧ c ≤ 'F' then c.toNat - 'A'.toNat + 10
        else base
      if digit < base then some (value * base + digit) else none) 0

/-- A number without a sign: hexadecimal, octal or decimal, by its beginning. -/
def unsigned? : List Char → Option Nat
  | '0' :: 'x' :: digits => natOfDigits? 16 digits
  | '0' :: 'X' :: digits => natOfDigits? 16 digits
  | '0' :: c :: digits => natOfDigits? 8 (c :: digits)
  | digits => natOfDigits? 10 digits

/-- A number with an optional sign. -/
def signed? : List Char → Option Int
  | '-' :: digits => (unsigned? digits).map fun value => -(value : Int)
  | '+' :: digits => (unsigned? digits).map Int.ofNat
  | digits => (unsigned? digits).map Int.ofNat

/-- The integer of 64 bits that a number is taken for. -/
def wrap (value : Int) : Int := value.bmod (1 <<< 64)

/-! ## Symbols -/

/-- A symbol of an expression. -/
inductive Symbol where
  /-- A number. -/
  | number (value : Nat)
  /-- A name. -/
  | name (text : String)
  /-- An operator or a bracket. -/
  | mark (text : String)
  deriving DecidableEq, Repr

/-- Operators and brackets, longer ones before their beginnings. -/
def marks : List String :=
  ["<<=", ">>=", "<=", ">=", "==", "!=", "&&", "||", "<<", ">>", "+=", "-=", "*=", "/=", "%=",
    "&=", "|=", "^=", "<", ">", "=", "!", "&", "|", "+", "-", "*", "/", "%", "^", "~", "?", ":",
    "(", ")"]

/-- Whether a character belongs to a number or a name. -/
def isWordChar (c : Char) : Bool := c.isAlphanum || c == '_'

/-- The symbol at the start of a text, with what follows. -/
def symbolAt? (text : List Char) : Option (Symbol × List Char) :=
  match text.takeWhile isWordChar with
  | c :: word =>
    let after := text.dropWhile isWordChar
    if c.isDigit then (unsigned? (c :: word)).map fun value => (.number value, after)
    else some (.name (String.ofList (c :: word)), after)
  | [] =>
    (marks.find? fun mark => mark.toList.isPrefixOf text).map fun mark =>
      (.mark mark, text.drop mark.length)

/-- Symbols of a text, of which no more than a bound are read. -/
def symbolsWithin : Nat → List Char → Option (List Symbol)
  | 0, _ => none
  | bound + 1, text =>
    match text.dropWhile Char.isWhitespace with
    | [] => some []
    | c :: rest => do
      let (symbol, after) ← symbolAt? (c :: rest)
      let symbols ← symbolsWithin bound after
      some (symbol :: symbols)

/-! ## Reading -/

/-- An expression with the symbols after it. -/
abbrev Parsed := Option (Arithmetic × List Symbol)

/-- How two operands are put together. -/
abbrev Joining := Arithmetic → Arithmetic → Arithmetic

/-- Operators between operands, from the level that binds least. -/
def levels : List (List (String × Joining)) :=
  [[("||", .either)], [("&&", .both)], [("|", .binary .bitOr)], [("^", .binary .bitXor)],
    [("&", .binary .bitAnd)], [("==", .binary .equal), ("!=", .binary .unequal)],
    [("<", .binary .less), ("<=", .binary .lessOrEqual), (">", .binary .greater),
      (">=", .binary .greaterOrEqual)],
    [("<<", .binary .shiftLeft), (">>", .binary .shiftRight)],
    [("+", .binary .add), ("-", .binary .subtract)],
    [("*", .binary .multiply), ("/", .binary .divide), ("%", .binary .remainder)]]

/-- Operators before their operand. -/
def unaryOperators : List (String × UnaryOperator) :=
  [("+", .plus), ("-", .minus), ("~", .complement), ("!", .negation)]

/-- Assignments that combine the value with the one before. -/
def assignments : List (String × Option BinaryOperator) :=
  [("=", none), ("+=", some .add), ("-=", some .subtract), ("*=", some .multiply),
    ("/=", some .divide), ("%=", some .remainder), ("<<=", some .shiftLeft),
    (">>=", some .shiftRight), ("&=", some .bitAnd), ("|=", some .bitOr), ("^=", some .bitXor)]

mutual

/-- A whole expression. -/
def expression? : Nat → List Symbol → Parsed
  | 0, _ => none
  | bound + 1, symbols =>
    match symbols with
    | .name name :: .mark mark :: rest =>
      match assignments.lookup mark with
      | some operator =>
        (expression? bound rest).map fun (value, after) => (.assign name operator value, after)
      | none => choice? bound symbols
    | _ => choice? bound symbols

/-- An expression without an assignment. -/
def choice? : Nat → List Symbol → Parsed
  | 0, _ => none
  | bound + 1, symbols =>
    match level? bound levels symbols with
    | some (condition, .mark "?" :: rest) => do
      let (positive, after) ← expression? bound rest
      match after with
      | .mark ":" :: rest =>
        let (negative, after) ← choice? bound rest
        some (.choice condition positive negative, after)
      | _ => none
    | parsed => parsed

/-- Operands with operators of some levels between them. -/
def level? : Nat → List (List (String × Joining)) → List Symbol → Parsed
  | 0, _, _ => none
  | bound + 1, [], symbols => operand? bound symbols
  | bound + 1, operators :: inner, symbols =>
    match level? bound inner symbols with
    | some (first, after) => links? bound operators inner first after
    | none => none

/-- Further operands of one level. -/
def links? : Nat → List (String × Joining) → List (List (String × Joining)) → Arithmetic →
    List Symbol → Parsed
  | 0, _, _, _, _ => none
  | bound + 1, operators, inner, first, symbols =>
    match symbols with
    | .mark mark :: rest =>
      match operators.lookup mark with
      | none => some (first, symbols)
      | some joining =>
        match level? bound inner rest with
        | some (second, after) => links? bound operators inner (joining first second) after
        | none => none
    | _ => some (first, symbols)

/-- One operand. -/
def operand? : Nat → List Symbol → Parsed
  | 0, _ => none
  | bound + 1, symbols =>
    match symbols with
    | .number value :: rest => some (.number value, rest)
    | .name name :: rest => some (.variableValue name, rest)
    | .mark "(" :: rest =>
      match expression? bound rest with
      | some (inner, .mark ")" :: after) => some (inner, after)
      | _ => none
    | .mark mark :: rest =>
      match unaryOperators.lookup mark with
      | some operator =>
        (operand? bound rest).map fun (inner, after) => (.unary operator inner, after)
      | none => none
    | [] => none

end

/-- The expression that a text is.  An empty text counts as zero. -/
def parse? (text : String) : Option Arithmetic := do
  let symbols ← symbolsWithin (text.length + 1) text.toList
  if symbols.isEmpty then some (.number 0)
  else
    match ← expression? (16 * symbols.length + 16) symbols with
    | (expression, []) => some expression
    | _ => none

/-! ## Values -/

/-- Values of variables. -/
abbrev Bindings := OrderedMap String String

/-- One or zero. -/
def ofBool (condition : Bool) : Int := if condition then 1 else 0

/-- The bits of an integer of 64 bits. -/
def bits (value : Int) : Nat := (value % (1 <<< 64 : Nat)).toNat

namespace UnaryOperator

/-- The value of an operand under an operator. -/
def apply (value : Int) : UnaryOperator → Int
  | .plus => value
  | .minus => wrap (-value)
  | .complement => -value - 1
  | .negation => ofBool (value == 0)

end UnaryOperator

namespace BinaryOperator

/-- The value of two operands under an operator. -/
def apply (left right : Int) : BinaryOperator → Except ArithmeticError Int
  | .add => .ok (wrap (left + right))
  | .subtract => .ok (wrap (left - right))
  | .multiply => .ok (wrap (left * right))
  | .divide => if right = 0 then .error .divisionByZero else .ok (wrap (left.tdiv right))
  | .remainder => if right = 0 then .error .divisionByZero else .ok (wrap (left.tmod right))
  | .shiftLeft => .ok (wrap (left * (1 <<< (bits right % 64) : Nat)))
  | .shiftRight => .ok (left / (1 <<< (bits right % 64) : Nat))
  | .less => .ok (ofBool (left < right))
  | .lessOrEqual => .ok (ofBool (left ≤ right))
  | .greater => .ok (ofBool (right < left))
  | .greaterOrEqual => .ok (ofBool (right ≤ left))
  | .equal => .ok (ofBool (left == right))
  | .unequal => .ok (ofBool (left != right))
  | .bitAnd => .ok (wrap (bits left &&& bits right))
  | .bitXor => .ok (wrap (bits left ^^^ bits right))
  | .bitOr => .ok (wrap (bits left ||| bits right))

end BinaryOperator

/-- The number that a variable holds. -/
def variableNumber (bindings : Bindings) (name : String) : Except ArithmeticError Int :=
  match bindings.find? name with
  | none => .ok 0
  | some "" => .ok 0
  | some text =>
    match signed? (text.toList.dropWhile Char.isWhitespace) with
    | some value => .ok (wrap value)
    | none => .error (.illegalNumber text)

/-- The value of an expression, and the variables afterwards. -/
def evaluate (bindings : Bindings) : Arithmetic → Except ArithmeticError (Int × Bindings)
  | .number value => .ok (wrap value, bindings)
  | .variableValue name => do
    let value ← variableNumber bindings name
    return (value, bindings)
  | .unary operator operand => do
    let (value, bindings) ← evaluate bindings operand
    return (UnaryOperator.apply value operator, bindings)
  | .binary operator left right => do
    let (first, bindings) ← evaluate bindings left
    let (second, bindings) ← evaluate bindings right
    let value ← BinaryOperator.apply first second operator
    return (value, bindings)
  | .both left right => do
    let (first, bindings) ← evaluate bindings left
    if first = 0 then return (0, bindings)
    else
      let (second, bindings) ← evaluate bindings right
      return (ofBool (second != 0), bindings)
  | .either left right => do
    let (first, bindings) ← evaluate bindings left
    if first ≠ 0 then return (1, bindings)
    else
      let (second, bindings) ← evaluate bindings right
      return (ofBool (second != 0), bindings)
  | .choice condition positive negative => do
    let (value, bindings) ← evaluate bindings condition
    if value ≠ 0 then evaluate bindings positive else evaluate bindings negative
  | .assign name operator value => do
    let (right, bindings) ← evaluate bindings value
    let result ←
      match operator with
      | none => pure right
      | some operator => do
        let left ← variableNumber bindings name
        BinaryOperator.apply left right operator
    return (result, bindings.insert name (toString result))

/-- The value of a text as an expression, and the variables afterwards. -/
def evaluateText (bindings : Bindings) (text : String) :
    Except ArithmeticError (Int × Bindings) :=
  match parse? text with
  | some expression => evaluate bindings expression
  | none => .error .malformed

end Arithmetic
end Shell
end ClassEnhancement
