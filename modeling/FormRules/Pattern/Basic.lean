import FormRules.Pattern.Anchor
/-!
# Patterns

A pattern describes texts by what they are made of.

    empty           the empty text
    char            one character that passes a test
    cat p q         a text of `p`, and behind it one of `q`
    alt p q         a text of `p` or one of `q`
    loop m n p      from `m` to `n` texts of `p`, or `m` and more
    anchor a        the empty text, at a certain place

These are the patterns that formats are made of.  What a user may write has groups, conditions and
other ways to repeat; it is read into terms.
-/
namespace FormRules

/-- A pattern over texts. -/
inductive Pattern where
  | empty
  | char (test : Pattern.CharTest)
  | cat (first second : Pattern)
  | alt (first second : Pattern)
  | loop (least : Nat) (most : Option Nat) (body : Pattern)
  | anchor (place : Pattern.Anchor)
deriving DecidableEq, Repr, Inhabited

end FormRules
