import Yola.Lua.Lexer

/-!
# A recursive-descent parser for Lua chunks

A chunk compiles when its whole text is one block: every `if` and `function` is closed by its own
`end`, and `return` is the last statement of the block it stands in.  The fragment covers local
declarations, local functions, conditionals, call statements and `return`, with the expressions
built from literals, names, indexing, calls, table lists, comparisons and the logical operators.
-/

namespace Yola.Lua

inductive BinOp where
  | and | or | eq | ne | lt | le | gt | ge
deriving DecidableEq

inductive Expr where
  | nil
  | bool (b : Bool)
  | num (n : Nat)
  | str (s : String)
  | name (x : String)
  | index (e key : Expr)
  | call (f : Expr) (args : List Expr)
  | not (e : Expr)
  | neg (e : Expr)
  | binop (op : BinOp) (l r : Expr)
  | table (items : List Expr)

inductive Stat where
  | declare (names : List String) (values : List Expr)
  | function (name : String) (params : List String) (body : List Stat)
  | call (e : Expr)
  | cond (test : Expr) (body orElse : List Stat)
  | ret (values : List Expr)

abbrev Block := List Stat

def compareOp : Symbol → Option BinOp
  | .eq => some .eq
  | .ne => some .ne
  | .lt => some .lt
  | .le => some .le
  | .gt => some .gt
  | .ge => some .ge
  | _ => none

/-- A block ends before one of these tokens or with the text. -/
def blockFollow : List Token → Bool
  | [] | .keyword .tkEnd :: _ | .keyword .tkElse :: _ | .keyword .tkElseif :: _
  | .keyword .tkUntil :: _ => true
  | _ => false

def nameList : Nat → List Token → Option (List String × List Token)
  | n + 1, .name x :: .symbol .comma :: ts => (nameList n ts).map fun p => (x :: p.1, p.2)
  | _ + 1, .name x :: ts => some ([x], ts)
  | _, _ => none

/-- The parameters of a function after its opening parenthesis. -/
def paramList (n : Nat) : List Token → Option (List String × List Token)
  | .symbol .rparen :: ts => some ([], ts)
  | ts =>
      match nameList n ts with
      | some (xs, .symbol .rparen :: rest) => some (xs, rest)
      | _ => none

def skipSemicolon : List Token → List Token
  | .symbol .semicolon :: ts | ts => ts

def Expr.isCall : Expr → Bool
  | .call _ _ => true
  | _ => false

-- Operators bind, from the loosest: `or`, `and`, comparisons, the unary `not` and `-`.
mutual

def parseExpr : Nat → List Token → Option (Expr × List Token)
  | 0, _ => none
  | n + 1, ts =>
      match parseAnd n ts with
      | none => none
      | some (l, rest) => orTail n l rest

def orTail : Nat → Expr → List Token → Option (Expr × List Token)
  | 0, _, _ => none
  | n + 1, l, .keyword .tkOr :: ts =>
      match parseAnd n ts with
      | none => none
      | some (r, rest) => orTail n (.binop .or l r) rest
  | _ + 1, l, ts => some (l, ts)

def parseAnd : Nat → List Token → Option (Expr × List Token)
  | 0, _ => none
  | n + 1, ts =>
      match parseCompare n ts with
      | none => none
      | some (l, rest) => andTail n l rest

def andTail : Nat → Expr → List Token → Option (Expr × List Token)
  | 0, _, _ => none
  | n + 1, l, .keyword .tkAnd :: ts =>
      match parseCompare n ts with
      | none => none
      | some (r, rest) => andTail n (.binop .and l r) rest
  | _ + 1, l, ts => some (l, ts)

def parseCompare : Nat → List Token → Option (Expr × List Token)
  | 0, _ => none
  | n + 1, ts =>
      match parseUnary n ts with
      | none => none
      | some (l, rest) => compareTail n l rest

def compareTail : Nat → Expr → List Token → Option (Expr × List Token)
  | 0, _, _ => none
  | n + 1, l, .symbol s :: ts =>
      match compareOp s with
      | none => some (l, .symbol s :: ts)
      | some op =>
          match parseUnary n ts with
          | none => none
          | some (r, rest) => compareTail n (.binop op l r) rest
  | _ + 1, l, ts => some (l, ts)

def parseUnary : Nat → List Token → Option (Expr × List Token)
  | 0, _ => none
  | n + 1, .keyword .tkNot :: ts => (parseUnary n ts).map fun p => (.not p.1, p.2)
  | n + 1, .symbol .minus :: ts => (parseUnary n ts).map fun p => (.neg p.1, p.2)
  | n + 1, ts => parsePrimary n ts

def parsePrimary : Nat → List Token → Option (Expr × List Token)
  | 0, _ => none
  | _ + 1, .keyword .tkNil :: ts => some (.nil, ts)
  | _ + 1, .keyword .tkTrue :: ts => some (.bool true, ts)
  | _ + 1, .keyword .tkFalse :: ts => some (.bool false, ts)
  | _ + 1, .number k :: ts => some (.num k, ts)
  | _ + 1, .string s :: ts => some (.str s, ts)
  | _ + 1, .symbol .lbrace :: .symbol .rbrace :: ts => some (.table [], ts)
  | n + 1, .symbol .lbrace :: ts =>
      match exprList n ts with
      | some (es, .symbol .rbrace :: rest) => some (.table es, rest)
      | _ => none
  | n + 1, .name x :: ts => suffixes n (.name x) ts
  | n + 1, .symbol .lparen :: ts =>
      match parseExpr n ts with
      | some (e, .symbol .rparen :: rest) => suffixes n e rest
      | _ => none
  | _ + 1, _ => none

def suffixes : Nat → Expr → List Token → Option (Expr × List Token)
  | 0, _, _ => none
  | n + 1, e, .symbol .dot :: .name x :: ts => suffixes n (.index e (.str x)) ts
  | n + 1, e, .symbol .lbracket :: ts =>
      match parseExpr n ts with
      | some (k, .symbol .rbracket :: rest) => suffixes n (.index e k) rest
      | _ => none
  | n + 1, e, .symbol .lparen :: .symbol .rparen :: ts => suffixes n (.call e []) ts
  | n + 1, e, .symbol .lparen :: ts =>
      match exprList n ts with
      | some (args, .symbol .rparen :: rest) => suffixes n (.call e args) rest
      | _ => none
  | _ + 1, e, ts => some (e, ts)

def exprList : Nat → List Token → Option (List Expr × List Token)
  | 0, _ => none
  | n + 1, ts =>
      match parseExpr n ts with
      | some (e, .symbol .comma :: rest) => (exprList n rest).map fun p => (e :: p.1, p.2)
      | some (e, rest) => some ([e], rest)
      | none => none

end

mutual

def parseBlock : Nat → List Token → Option (Block × List Token)
  | 0, _ => none
  | n + 1, .keyword .tkReturn :: ts =>
      if blockFollow ts then some ([.ret []], ts)
      else match exprList n ts with
        | none => none
        | some (es, rest) =>
            if blockFollow (skipSemicolon rest) then some ([.ret es], skipSemicolon rest)
            else none
  | n + 1, ts =>
      if blockFollow ts then some ([], ts)
      else match parseStat n ts with
        | none => none
        | some (st, rest) =>
            (parseBlock n (skipSemicolon rest)).map fun p => (st :: p.1, p.2)

def parseStat : Nat → List Token → Option (Stat × List Token)
  | 0, _ => none
  | n + 1, .keyword .tkLocal :: .keyword .tkFunction :: .name f :: .symbol .lparen :: ts =>
      match paramList n ts with
      | none => none
      | some (params, rest) =>
          match parseBlock n rest with
          | some (body, .keyword .tkEnd :: rest') => some (.function f params body, rest')
          | _ => none
  | n + 1, .keyword .tkLocal :: ts =>
      match nameList n ts with
      | some (xs, .symbol .assign :: rest) =>
          (exprList n rest).map fun p => (.declare xs p.1, p.2)
      | some (xs, rest) => some (.declare xs [], rest)
      | none => none
  | n + 1, .keyword .tkIf :: ts => parseCond n ts
  | n + 1, ts =>
      match parsePrimary n ts with
      | some (e, rest) => if e.isCall then some (.call e, rest) else none
      | none => none

/-- A conditional after its `if` or `elseif`, up to and including its `end`. -/
def parseCond : Nat → List Token → Option (Stat × List Token)
  | 0, _ => none
  | n + 1, ts =>
      match parseExpr n ts with
      | some (test, .keyword .tkThen :: rest) =>
          match parseBlock n rest with
          | some (body, .keyword .tkEnd :: rest') => some (.cond test body [], rest')
          | some (body, .keyword .tkElseif :: rest') =>
              (parseCond n rest').map fun p => (.cond test body [p.1], p.2)
          | some (body, .keyword .tkElse :: rest') =>
              match parseBlock n rest' with
              | some (orElse, .keyword .tkEnd :: rest'') => some (.cond test body orElse, rest'')
              | _ => none
          | _ => none
      | _ => none

end

def compileChars (text : List Char) : Option Block :=
  match lex text with
  | none => none
  | some ts =>
      -- No chain of calls between two tokens is longer than eight.
      match parseBlock (8 * ts.length + 8) ts with
      | some (block, []) => some block
      | _ => none

/-- Compiling a chunk; `none` is a compile error. -/
def compile (text : String) : Option Block := compileChars text.toList

theorem compile_ofList (text : List Char) : compile (String.ofList text) = compileChars text := by
  rw [compile, String.toList_ofList]

end Yola.Lua
