/-!
Operators of expressions and their symbols.
-/

namespace RemoteDebug

/-- A binary operator of an expression. -/
inductive BinaryOp where
  | add | sub | mul | div | rem
  | shl | shr | ushr
  | and | or | xor
  | less | lessEq | greater | greaterEq | equal | notEqual
deriving DecidableEq, Repr, Inhabited

namespace BinaryOp

/-- All binary operators. -/
def all : List BinaryOp :=
  [.add, .sub, .mul, .div, .rem, .shl, .shr, .ushr, .and, .or, .xor, .less, .lessEq, .greater,
    .greaterEq, .equal, .notEqual]

def symbol : BinaryOp → String
  | .add => "+"
  | .sub => "-"
  | .mul => "*"
  | .div => "/"
  | .rem => "%"
  | .shl => "<<"
  | .shr => ">>"
  | .ushr => ">>>"
  | .and => "&"
  | .or => "|"
  | .xor => "^"
  | .less => "<"
  | .lessEq => "<="
  | .greater => ">"
  | .greaterEq => ">="
  | .equal => "=="
  | .notEqual => "!="

/-- Shifts promote their operands one by one. -/
def isShift (op : BinaryOp) : Bool := op = .shl ∨ op = .shr ∨ op = .ushr

end BinaryOp

/-- A unary operator of an expression. -/
inductive UnaryOp where
  | minus | plus | not | complement
deriving DecidableEq, Repr, Inhabited

namespace UnaryOp

/-- All unary operators. -/
def all : List UnaryOp := [.minus, .plus, .not, .complement]

def symbol : UnaryOp → String
  | .minus => "-"
  | .plus => "+"
  | .not => "!"
  | .complement => "~"

end UnaryOp

end RemoteDebug
