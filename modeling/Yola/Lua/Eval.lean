import Yola.Lua.Parser
import Yola.Text.Utf8

/-!
# Running a chunk

The evaluator threads the state of the embedding program through the calls a chunk makes to it.
Locals are never assigned after their declaration in this fragment, so a function captures the
values it sees.  An error keeps every effect that came before it; only `pcall` stops one.
-/

namespace Yola.Lua

open Text

inductive Value where
  | nil
  | bool (b : Bool)
  | num (n : Int)
  | str (s : Bytes)
  | table (items : List Value) (fields : List (Bytes × Value))
  | userdata
  | host (name : String)
  | pcall
  | type
  | closure (params : List String) (body : Block) (env : List (String × Value))

/-- What is in scope, the innermost declaration first. -/
abbrev Env := List (String × Value)

inductive Error where
  | raised
  | outOfFuel
deriving DecidableEq

/-- A computation over the state of the embedding program. -/
def Eval (σ α : Type) := σ → Except Error α × σ

variable {σ α β : Type}

instance : Monad (Eval σ) where
  pure a s := (.ok a, s)
  bind m f s :=
    match m s with
    | (.ok a, s') => f a s'
    | (.error e, s') => (.error e, s')

def throw (e : Error) : Eval σ α := fun s => (.error e, s)

@[simp] theorem pure_apply (a : α) (s : σ) : (pure a : Eval σ α) s = (.ok a, s) := rfl

@[simp] theorem throw_apply (e : Error) (s : σ) : (throw e : Eval σ α) s = (.error e, s) := rfl

theorem bind_apply (m : Eval σ α) (f : α → Eval σ β) (s : σ) :
    (m >>= f) s = match m s with
      | (.ok a, s') => f a s'
      | (.error e, s') => (.error e, s') := rfl

abbrev Host (σ : Type) := String → List Value → Eval σ (List Value)

namespace Value

/-- Everything but `nil` and `false` passes a test. -/
def truthy : Value → Bool
  | nil => false
  | bool b => b
  | _ => true

def typeName : Value → String
  | nil => "nil"
  | bool _ => "boolean"
  | num _ => "number"
  | str _ => "string"
  | table _ _ => "table"
  | userdata => "userdata"
  | _ => "function"

/-- `==`; tables and functions are equal only to themselves, which no chunk of the fragment asks. -/
def rawEq : Value → Value → Bool
  | nil, nil => true
  | bool a, bool b => a == b
  | num a, num b => a == b
  | str a, str b => a == b
  | userdata, userdata => true
  | _, _ => false

/-- The last binding of a key wins. -/
def field (fields : List (Bytes × Value)) (k : Bytes) : Value :=
  ((fields.reverse.find? fun p => p.1 == k).map Prod.snd).getD nil

/-- Indexing; only tables can be indexed. -/
def get : Value → Value → Eval σ Value
  | table items _, num n => pure (if 1 ≤ n then (items[n.toNat - 1]?).getD nil else nil)
  | table _ fields, str k => pure (field fields k)
  | table _ _, _ => pure nil
  | _, _ => throw .raised

def compare (op : BinOp) : Value → Value → Eval σ Value
  | num a, num b =>
      match op with
      | .lt => pure (bool (decide (a < b)))
      | .le => pure (bool (decide (a ≤ b)))
      | .gt => pure (bool (decide (b < a)))
      | _ => pure (bool (decide (b ≤ a)))
  | _, _ => throw .raised

end Value

def lookup (env : Env) (x : String) : Value := ((env.find? fun p => p.1 == x).map Prod.snd).getD .nil

/-- Names take values in order, `nil` once these run out. -/
def bindNames : List String → List Value → Env
  | [], _ => []
  | x :: xs, [] => (x, .nil) :: bindNames xs []
  | x :: xs, v :: vs => (x, v) :: bindNames xs vs

def first (vs : List Value) : Value := vs.head?.getD .nil

mutual

def evalExpr (h : Host σ) : Nat → Env → Expr → Eval σ (List Value)
  | 0, _, _ => throw .outOfFuel
  | _ + 1, _, .nil => pure [.nil]
  | _ + 1, _, .bool b => pure [.bool b]
  | _ + 1, _, .num k => pure [.num k]
  | _ + 1, _, .str s => pure [.str (utf8 s)]
  | _ + 1, env, .name x => pure [lookup env x]
  | n + 1, env, .index e k => do
      let v ← evalExpr h n env e
      let i ← evalExpr h n env k
      let r ← (first v).get (first i)
      pure [r]
  | n + 1, env, .call f args => do
      let v ← evalExpr h n env f
      let vs ← evalArgs h n env args
      callValue h n (first v) vs
  | n + 1, env, .not e => do
      let v ← evalExpr h n env e
      pure [.bool (!(first v).truthy)]
  | n + 1, env, .neg e => do
      let v ← evalExpr h n env e
      match first v with
      | .num k => pure [.num (-k)]
      | _ => throw .raised
  | n + 1, env, .binop .and l r => do
      let v ← evalExpr h n env l
      if (first v).truthy then do
        let w ← evalExpr h n env r
        pure [first w]
      else pure [first v]
  | n + 1, env, .binop .or l r => do
      let v ← evalExpr h n env l
      if (first v).truthy then pure [first v]
      else do
        let w ← evalExpr h n env r
        pure [first w]
  | n + 1, env, .binop .eq l r => do
      let v ← evalExpr h n env l
      let w ← evalExpr h n env r
      pure [.bool ((first v).rawEq (first w))]
  | n + 1, env, .binop .ne l r => do
      let v ← evalExpr h n env l
      let w ← evalExpr h n env r
      pure [.bool (!(first v).rawEq (first w))]
  | n + 1, env, .binop op l r => do
      let v ← evalExpr h n env l
      let w ← evalExpr h n env r
      let b ← (first v).compare op (first w)
      pure [b]
  | n + 1, env, .table items => do
      let vs ← evalArgs h n env items
      pure [.table vs []]

/-- A list of expressions: the last one gives all its values, the others one each. -/
def evalArgs (h : Host σ) : Nat → Env → List Expr → Eval σ (List Value)
  | 0, _, _ => throw .outOfFuel
  | _ + 1, _, [] => pure []
  | n + 1, env, [e] => evalExpr h n env e
  | n + 1, env, e :: es => do
      let v ← evalExpr h n env e
      let vs ← evalArgs h n env es
      pure (first v :: vs)

def callValue (h : Host σ) : Nat → Value → List Value → Eval σ (List Value)
  | 0, _, _ => throw .outOfFuel
  | _ + 1, .host name, args => h name args
  | _ + 1, .type, args => pure [.str (utf8 (first args).typeName)]
  | n + 1, .pcall, f :: args => fun s =>
      match callValue h n f args s with
      | (.ok vs, s') => (.ok (.bool true :: vs), s')
      | (.error .raised, s') => (.ok [.bool false, .nil], s')
      | (.error .outOfFuel, s') => (.error .outOfFuel, s')
  | n + 1, .closure params body env, args => do
      let r ← exec h n (bindNames params args ++ env) body
      pure (r.getD [])
  | _ + 1, _, _ => throw .raised

/-- A block runs to its end, `none`, or to a `return`. -/
def exec (h : Host σ) : Nat → Env → Block → Eval σ (Option (List Value))
  | 0, _, _ => throw .outOfFuel
  | _ + 1, _, [] => pure none
  | n + 1, env, .declare xs es :: rest => do
      let vs ← evalArgs h n env es
      exec h n (bindNames xs vs ++ env) rest
  | n + 1, env, .function f params body :: rest =>
      exec h n ((f, .closure params body env) :: env) rest
  | n + 1, env, .call e :: rest => do
      let _ ← evalExpr h n env e
      exec h n env rest
  | n + 1, env, .cond test body orElse :: rest => do
      let v ← evalExpr h n env test
      let r ← exec h n env (if (first v).truthy then body else orElse)
      match r with
      | some vs => pure (some vs)
      | none => exec h n env rest
  | n + 1, env, .ret es :: _ => do
      let vs ← evalArgs h n env es
      pure (some vs)

end

/-! ## One step of each construct

Stated by hand: the generated equations of the mutual block are too large to be useful. -/

section Steps

variable (h : Host σ) (n : Nat) (env : Env)

@[simp] theorem evalExpr_nil : evalExpr h (n + 1) env .nil = pure [.nil] := rfl

@[simp] theorem evalExpr_num (k : Nat) : evalExpr h (n + 1) env (.num k) = pure [.num k] := rfl

@[simp] theorem evalExpr_str (s : String) :
    evalExpr h (n + 1) env (.str s) = pure [.str (utf8 s)] := rfl

@[simp] theorem evalExpr_name (x : String) :
    evalExpr h (n + 1) env (.name x) = pure [lookup env x] := rfl

@[simp] theorem evalExpr_index (e k : Expr) :
    evalExpr h (n + 1) env (.index e k) = (do
      let v ← evalExpr h n env e
      let i ← evalExpr h n env k
      let r ← (first v).get (first i)
      pure [r]) := rfl

@[simp] theorem evalExpr_call (f : Expr) (args : List Expr) :
    evalExpr h (n + 1) env (.call f args) = (do
      let v ← evalExpr h n env f
      let vs ← evalArgs h n env args
      callValue h n (first v) vs) := rfl

@[simp] theorem evalExpr_not (e : Expr) :
    evalExpr h (n + 1) env (.not e) = (do
      let v ← evalExpr h n env e
      pure [.bool (!(first v).truthy)]) := rfl

@[simp] theorem evalExpr_neg_num (k : Nat) :
    evalExpr h (n + 2) env (.neg (.num k)) = pure [.num (-k)] := rfl

@[simp] theorem evalExpr_and (l r : Expr) :
    evalExpr h (n + 1) env (.binop .and l r) = (do
      let v ← evalExpr h n env l
      if (first v).truthy then do
        let w ← evalExpr h n env r
        pure [first w]
      else pure [first v]) := rfl

@[simp] theorem evalExpr_eq (l r : Expr) :
    evalExpr h (n + 1) env (.binop .eq l r) = (do
      let v ← evalExpr h n env l
      let w ← evalExpr h n env r
      pure [.bool ((first v).rawEq (first w))]) := rfl

@[simp] theorem evalExpr_ne (l r : Expr) :
    evalExpr h (n + 1) env (.binop .ne l r) = (do
      let v ← evalExpr h n env l
      let w ← evalExpr h n env r
      pure [.bool (!(first v).rawEq (first w))]) := rfl

@[simp] theorem evalExpr_le (l r : Expr) :
    evalExpr h (n + 1) env (.binop .le l r) = (do
      let v ← evalExpr h n env l
      let w ← evalExpr h n env r
      let b ← (first v).compare .le (first w)
      pure [b]) := rfl

@[simp] theorem evalExpr_table (items : List Expr) :
    evalExpr h (n + 1) env (.table items) = (do
      let vs ← evalArgs h n env items
      pure [.table vs []]) := rfl

@[simp] theorem evalArgs_nil : evalArgs h (n + 1) env [] = pure [] := rfl

@[simp] theorem evalArgs_one (e : Expr) : evalArgs h (n + 1) env [e] = evalExpr h n env e := rfl

@[simp] theorem evalArgs_cons (e e' : Expr) (es : List Expr) :
    evalArgs h (n + 1) env (e :: e' :: es) = (do
      let v ← evalExpr h n env e
      let vs ← evalArgs h n env (e' :: es)
      pure (first v :: vs)) := rfl

@[simp] theorem callValue_host (name : String) (args : List Value) :
    callValue h (n + 1) (.host name) args = h name args := rfl

@[simp] theorem callValue_type (args : List Value) :
    callValue h (n + 1) .type args = pure [.str (utf8 (first args).typeName)] := rfl

theorem callValue_pcall (f : Value) (args : List Value) (s : σ) :
    callValue h (n + 1) .pcall (f :: args) s =
      match callValue h n f args s with
      | (.ok vs, s') => (.ok (.bool true :: vs), s')
      | (.error .raised, s') => (.ok [.bool false, .nil], s')
      | (.error .outOfFuel, s') => (.error .outOfFuel, s') := rfl

@[simp] theorem callValue_closure (params : List String) (body : Block) (scope : Env)
    (args : List Value) :
    callValue h (n + 1) (.closure params body scope) args = (do
      let r ← exec h n (bindNames params args ++ scope) body
      pure (r.getD [])) := rfl

@[simp] theorem exec_nil : exec h (n + 1) env [] = pure none := rfl

@[simp] theorem exec_declare (xs : List String) (es : List Expr) (rest : Block) :
    exec h (n + 1) env (.declare xs es :: rest) = (do
      let vs ← evalArgs h n env es
      exec h n (bindNames xs vs ++ env) rest) := rfl

@[simp] theorem exec_function (f : String) (params : List String) (body rest : Block) :
    exec h (n + 1) env (.function f params body :: rest) =
      exec h n ((f, .closure params body env) :: env) rest := rfl

@[simp] theorem exec_call (e : Expr) (rest : Block) :
    exec h (n + 1) env (.call e :: rest) = (do
      let _ ← evalExpr h n env e
      exec h n env rest) := rfl

theorem exec_cond (test : Expr) (body orElse rest : Block) :
    exec h (n + 1) env (.cond test body orElse :: rest) = (do
      let v ← evalExpr h n env test
      let r ← exec h n env (if (first v).truthy then body else orElse)
      match r with
      | some vs => pure (some vs)
      | none => exec h n env rest) := rfl

@[simp] theorem exec_ret (es : List Expr) (rest : Block) :
    exec h (n + 1) env (.ret es :: rest) = (do
      let vs ← evalArgs h n env es
      pure (some vs)) := rfl

end Steps

/-! ## Tests without effects -/

variable (h : Host σ) (env : Env) (s : σ)

def Tests (e : Expr) (b : Bool) : Prop := ∀ n, evalExpr h (n + 10) env e s = (.ok [.bool b], s)

/-- A chain of `and`, the first conjunct innermost. -/
def conj : Expr → List Expr → Expr
  | e, [] => e
  | e, e' :: es => conj (.binop .and e e') es

variable {h env s} {e l r : Expr} {a b : Bool}

theorem evalExpr_and_tests {n : Nat} (hl : evalExpr h n env l s = (.ok [.bool a], s))
    (hr : a = true → evalExpr h n env r s = (.ok [.bool b], s)) :
    evalExpr h (n + 1) env (.binop .and l r) s = (.ok [.bool (a && b)], s) := by
  rw [evalExpr_and, bind_apply, hl]
  cases a with
  | false => rfl
  | true =>
    change (evalExpr h n env r >>= fun w => pure [first w]) s = _
    rw [bind_apply, hr rfl]
    rfl

theorem conj_tests {es : List (Expr × Bool)} (hes : ∀ p ∈ es, Tests h env s p.1 p.2) {n : Nat}
    (he : evalExpr h (n + 10) env e s = (.ok [.bool a], s)) :
    evalExpr h (n + 10 + es.length) env (conj e (es.map Prod.fst)) s =
      (.ok [.bool (a && es.all Prod.snd)], s) := by
  induction es generalizing e a n with
  | nil => simpa [conj] using he
  | cons p es ih =>
    have hp := hes p List.mem_cons_self n
    have hand := evalExpr_and_tests he (fun _ => hp)
    have hrest := ih (fun q hq => hes q (List.mem_cons_of_mem _ hq)) (n := n + 1) (by
      rw [Nat.add_right_comm]
      exact hand)
    rw [List.length_cons, List.map_cons, conj, List.all_cons, ← Bool.and_assoc]
    rw [show n + 10 + (es.length + 1) = n + 1 + 10 + es.length by omega]
    exact hrest

-- Once a conjunct fails the rest is not looked at.
theorem conj_fails (es : List Expr) {n : Nat} (he : evalExpr h n env e s = (.ok [.bool false], s)) :
    evalExpr h (n + es.length) env (conj e es) s = (.ok [.bool false], s) := by
  induction es generalizing e n with
  | nil => exact he
  | cons e' es ih =>
    have hand := evalExpr_and_tests (r := e') (b := false) he (fun hfalse => by cases hfalse)
    rw [List.length_cons, conj, show n + (es.length + 1) = n + 1 + es.length by omega]
    exact ih hand

end Yola.Lua
