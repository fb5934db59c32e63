/-!
# Tokens of Lua 5.1

The lexical grammar that short scripts need: names and reserved words, decimal numerals, string
literals without escapes, the operators and punctuation of the language, and line comments.
-/

namespace Yola.Lua

inductive Keyword where
  | tkAnd | tkBreak | tkDo | tkElse | tkElseif | tkEnd | tkFalse | tkFor | tkFunction | tkIf | tkIn
  | tkLocal | tkNil | tkNot | tkOr | tkRepeat | tkReturn | tkThen | tkTrue | tkUntil | tkWhile
deriving DecidableEq

inductive Symbol where
  | lparen | rparen | lbrace | rbrace | lbracket | rbracket | semicolon | colon | comma
  | dot | concat | dots | assign | eq | ne | lt | le | gt | ge
  | plus | minus | star | slash | percent | caret | hash
deriving DecidableEq

inductive Token where
  | name (x : String)
  | keyword (k : Keyword)
  | number (n : Nat)
  | string (s : String)
  | symbol (s : Symbol)
deriving DecidableEq

def keywords : List (List Char × Keyword) :=
  [(['a', 'n', 'd'], .tkAnd), (['b', 'r', 'e', 'a', 'k'], .tkBreak), (['d', 'o'], .tkDo),
    (['e', 'l', 's', 'e'], .tkElse), (['e', 'l', 's', 'e', 'i', 'f'], .tkElseif),
    (['e', 'n', 'd'], .tkEnd), (['f', 'a', 'l', 's', 'e'], .tkFalse), (['f', 'o', 'r'], .tkFor),
    (['f', 'u', 'n', 'c', 't', 'i', 'o', 'n'], .tkFunction), (['i', 'f'], .tkIf),
    (['i', 'n'], .tkIn), (['l', 'o', 'c', 'a', 'l'], .tkLocal), (['n', 'i', 'l'], .tkNil),
    (['n', 'o', 't'], .tkNot), (['o', 'r'], .tkOr), (['r', 'e', 'p', 'e', 'a', 't'], .tkRepeat),
    (['r', 'e', 't', 'u', 'r', 'n'], .tkReturn), (['t', 'h', 'e', 'n'], .tkThen),
    (['t', 'r', 'u', 'e'], .tkTrue), (['u', 'n', 't', 'i', 'l'], .tkUntil),
    (['w', 'h', 'i', 'l', 'e'], .tkWhile)]

/-- The reserved word spelt by `w`, where there is one. -/
def keyword? (w : List Char) : Option Keyword := (keywords.find? fun k => k.1 == w).map Prod.snd

/-- Operators and punctuation, the longest spelling first. -/
def symbols : List (List Char × Symbol) :=
  [(['.', '.', '.'], .dots), (['.', '.'], .concat), (['=', '='], .eq), (['~', '='], .ne),
    (['<', '='], .le), (['>', '='], .ge), (['('], .lparen), ([')'], .rparen), (['{'], .lbrace),
    (['}'], .rbrace), (['['], .lbracket), ([']'], .rbracket), ([';'], .semicolon), ([':'], .colon),
    ([','], .comma), (['.'], .dot), (['='], .assign), (['<'], .lt), (['>'], .gt), (['+'], .plus),
    (['-'], .minus), (['*'], .star), (['/'], .slash), (['%'], .percent), (['^'], .caret),
    (['#'], .hash)]

def symbol? (s : List Char) : Option (Symbol × List Char) :=
  (symbols.find? fun p => p.1.isPrefixOf s).map fun p => (p.2, s.drop p.1.length)

def isSpace (c : Char) : Bool := c == ' ' || c == '\n' || c == '\t' || c == '\r'

def isNameStart (c : Char) : Bool := 'a' ≤ c && c ≤ 'z' || 'A' ≤ c && c ≤ 'Z' || c == '_'

def isDecimal (c : Char) : Bool := '0' ≤ c && c ≤ '9'

def decimalValue (ds : List Char) : Nat := ds.foldl (fun n c => 10 * n + (c.toNat - 48)) 0

/-- The characters up to the closing delimiter, and the text after it. -/
def stringBody (delim : Char) : List Char → Option (List Char × List Char)
  | [] => none
  | c :: cs =>
      if c = delim then some ([], cs)
      else if c = '\\' ∨ c = '\n' then none
      else (stringBody delim cs).map fun p => (c :: p.1, p.2)

/-- The tokens of a text, collected behind `acc`; every step reads a character, so the length of the
text is fuel enough. -/
def lexAux : Nat → List Char → List Token → Option (List Token)
  | _, [], acc => some acc.reverse
  | 0, _ :: _, _ => none
  | n + 1, '-' :: '-' :: cs, acc => lexAux n (cs.dropWhile (· != '\n')) acc
  | n + 1, c :: cs, acc =>
      if isSpace c then lexAux n cs acc
      else if isNameStart c then
        match (c :: cs).span fun d => isNameStart d || isDecimal d with
        | (w, rest) =>
            match keyword? w with
            | some k => lexAux n rest (.keyword k :: acc)
            | none => lexAux n rest (.name (String.ofList w) :: acc)
      else if isDecimal c then
        match (c :: cs).span isDecimal with
        | (w, rest) => lexAux n rest (.number (decimalValue w) :: acc)
      else if c = '"' ∨ c = '\'' then
        match stringBody c cs with
        | none => none
        | some (w, rest) => lexAux n rest (.string (String.ofList w) :: acc)
      else
        match symbol? (c :: cs) with
        | none => none
        | some (s, rest) => lexAux n rest (.symbol s :: acc)

def lex (text : List Char) : Option (List Token) := lexAux text.length text []

end Yola.Lua
