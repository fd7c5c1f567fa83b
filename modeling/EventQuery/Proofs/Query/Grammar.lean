import EventQuery.Proofs.Query.Token

/-!
# The grammar of queries

Which tokens a statement may be written in. Negation binds more closely than `and` and that more
closely than `or`, chains group to the left, and any condition may stand in parentheses. Where the
grammar has two spellings either may be used: the word or the sign of a connective, one equals sign
or two, either kind of quotes, a path from the root or from the name of a field.
-/

namespace EventQuery

open Query

namespace Query

namespace Token

/-- The token is a keyword. -/
def Is (word : String) : Token → Prop
  | keyword k => k.word = word
  | _ => False

/-- The token is the word for a connective, or its sign. -/
def Connects (word : String) (s : Sign) (t : Token) : Prop := t.Is word ∨ t = sign s

end Token

/-- A path is written as it is displayed, or from the name of a field on. The root is a name of its
    own only where no brackets follow. -/
inductive PathToken : Path → Token → Prop
  | displayed (first : Segment) (more : List Segment) :
    PathToken (first :: more) (.path Name.root first more)
  | field (n : Name) : PathToken [.key n.text] (.name n)
  | within (n : Name) (hn : n.text ≠ "e") (first : Segment) (more : List Segment) :
    PathToken (.key n.text :: first :: more) (.path n first more)

/-- One side of a comparison. -/
inductive OperandToken : Expr Path → Token → Prop
  | yes {t : Token} (ht : t.Is "true") : OperandToken (.bool true) t
  | no {t : Token} (ht : t.Is "false") : OperandToken (.bool false) t
  | null {t : Token} (ht : t.Is "null") : OperandToken (.literal .null) t
  | integer (i : Int64) : OperandToken (.literal (.number (.int i))) (.number i.toInt)
  | string (q : Quote) (s : String) : OperandToken (.literal (.string s)) (.quoted q s)
  | path {p : Path} {t : Token} (hp : PathToken p t) : OperandToken (.path p) t

/-- What a condition is as a whole. -/
inductive Level where
  | disjunction
  | conjunction
  | term
deriving DecidableEq, Repr

/-- The tokens of a condition in which so many negations and parentheses are open at once at
    most. -/
inductive ConditionTokens (patternSize : Nat) : Level → Nat → Expr Path → List Token → Prop
  | operand {depth : Nat} {e : Expr Path} {t : Token} (he : OperandToken e t) :
    ConditionTokens patternSize .term depth e [t]
  | compare {depth : Nat} {left right : Expr Path} {op : Comparison} {t u : Token} {s : Sign}
    (hleft : OperandToken left t) (hs : s.comparison? = some op) (hop : op ≠ .matching)
    (hright : OperandToken right u) :
    ConditionTokens patternSize .term depth (.compare left op right) [t, .sign s, u]
  | matching {depth : Nat} {left : Expr Path} {p : Pattern} {source : String} {t : Token}
    {s : Sign} {q : Quote} (hleft : OperandToken left t) (hs : s.comparison? = some .matching)
    (hp : Pattern.compile patternSize source = .ok p) :
    ConditionTokens patternSize .term depth (.compare left .matching (.pattern p))
      [t, .sign s, .quoted q source]
  | not {depth : Nat} {e : Expr Path} {t : Token} {ts : List Token} (ht : t.Connects "not" .not)
    (he : ConditionTokens patternSize .term depth e ts) :
    ConditionTokens patternSize .term (depth + 1) (.not e) (t :: ts)
  | group {depth : Nat} {e : Expr Path} {ts : List Token}
    (he : ConditionTokens patternSize .disjunction depth e ts) :
    ConditionTokens patternSize .term (depth + 1) e (.sign .opening :: (ts ++ [.sign .closing]))
  | term {depth : Nat} {e : Expr Path} {ts : List Token}
    (he : ConditionTokens patternSize .term depth e ts) :
    ConditionTokens patternSize .conjunction depth e ts
  | and {depth : Nat} {left right : Expr Path} {t : Token} {ts us : List Token}
    (hleft : ConditionTokens patternSize .conjunction depth left ts) (ht : t.Connects "and" .and)
    (hright : ConditionTokens patternSize .term depth right us) :
    ConditionTokens patternSize .conjunction depth (.and left right) (ts ++ t :: us)
  | conjunction {depth : Nat} {e : Expr Path} {ts : List Token}
    (he : ConditionTokens patternSize .conjunction depth e ts) :
    ConditionTokens patternSize .disjunction depth e ts
  | or {depth : Nat} {left right : Expr Path} {t : Token} {ts us : List Token}
    (hleft : ConditionTokens patternSize .disjunction depth left ts) (ht : t.Connects "or" .or)
    (hright : ConditionTokens patternSize .conjunction depth right us) :
    ConditionTokens patternSize .disjunction depth (.or left right) (ts ++ t :: us)

/-- One thing or more, with commas between them. -/
inductive Listed {α : Type} (Item : α → List Token → Prop) : List α → List Token → Prop
  | last {a : α} {ts : List Token} (ha : Item a ts) : Listed Item [a] ts
  | cons {a : α} {as : List α} {ts us : List Token} (ha : Item a ts) (has : Listed Item as us) :
    Listed Item (a :: as) (ts ++ .sign .comma :: us)

/-- A clause that may be missing, with the word it starts with. -/
inductive ClauseTokens {α : Type} (word : String) (Content : α → List Token → Prop) :
    Option α → List Token → Prop
  | absent : ClauseTokens word Content none []
  | present {a : α} {t : Token} {ts : List Token} (ht : t.Is word) (ha : Content a ts) :
    ClauseTokens word Content (some a) (t :: ts)

/-- A path in a select list, with the name it is given, if any. -/
inductive ItemTokens : SelectItem Path → List Token → Prop
  | plain {p : Path} {t : Token} (hp : PathToken p t) : ItemTokens (.path p none) [t]
  | named {p : Path} {t u : Token} (hp : PathToken p t) (hu : u.Is "as") (n : Name) :
    ItemTokens (.path p (some n.text)) [t, u, .name n]

inductive SelectTokens : List (SelectItem Path) → List Token → Prop
  | all : SelectTokens [.all] [.sign .star]
  | items {items : List (SelectItem Path)} {ts : List Token} (h : Listed ItemTokens items ts) :
    SelectTokens items ts

inductive StreamTokens : String → List Token → Prop
  | mk (n : Name) : StreamTokens n.text [.name n]

inductive WindowTokens : UInt64 → List Token → Prop
  | mk (n : UInt64) : WindowTokens n [.number n.toNat]

inductive PathTokens : Path → List Token → Prop
  | mk {p : Path} {t : Token} (hp : PathToken p t) : PathTokens p [t]

inductive GroupTokens : List Path → List Token → Prop
  | mk {ps : List Path} {t : Token} {ts : List Token} (ht : t.Is "by")
    (hps : Listed PathTokens ps ts) : GroupTokens ps (t :: ts)

/-- The tokens of a statement without a sample clause. The stream and the paths to group by need
    not be written where they are what is taken without their clauses. -/
inductive StatementTokens (limits : QueryLimits) : Statement → List Token → Prop
  | mk {select : List (SelectItem Path)} {stream : Option String} {window : Option UInt64}
    {condition : Option (Expr Path)} {groupBy : Option (List Path)} {t : Token}
    {ts us vs ws xs : List Token} (ht : t.Is "select") (hselect : SelectTokens select ts)
    (hstream : ClauseTokens "from" StreamTokens stream us)
    (hwindow : ClauseTokens "window" WindowTokens window vs)
    (hcondition : ClauseTokens "where"
      (ConditionTokens limits.patternSize .disjunction limits.nesting) condition ws)
    (hgroupBy : ClauseTokens "group" GroupTokens groupBy xs) :
    StatementTokens limits
      { select, stream := stream.getD "stream", window, condition, groupBy := groupBy.getD [],
        sample := none }
      (t :: (ts ++ (us ++ (vs ++ (ws ++ xs)))))

end Query

/-- The text is one of those in which a statement may be written. -/
def Statement.Rendering (limits : QueryLimits) (statement : Statement) (text : String) : Prop :=
  ∃ ts, StatementTokens limits statement ts ∧ LaidOut ts text.toList

end EventQuery
