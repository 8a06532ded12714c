import ThemeCascade.Style.Table

/-! The cascade decides which sources give an element its tokens: every rule that the element meets, in
order; its component's paint if no rule gave a token; and its component's dark paint in any case. -/

namespace ThemeCascade

/-- A configuration with its rules read. -/
structure Cascade where
  config : Configuration
  book : RuleBook

namespace Cascade

def ofConfiguration (config : Configuration) : Cascade := ⟨config, .ofTexts config.rules⟩

/-- The texts that are no rules, one event each. -/
def skipped (cascade : Cascade) : List Event := cascade.book.rejections.map .ruleSkipped

/-- What is logged when the cascade is ready for its first element. -/
def opening (cascade : Cascade) : List Event :=
  cascade.skipped ++
    [.cascadeReady cascade.book.rules.length cascade.book.rejections.length
      cascade.config.themes.size]

/-- Where the tokens of a paint come from, for the tag of the element at hand. -/
abbrev Supplier (σ : Type) := Text → Variant → Traced σ (List Text)

variable {σ : Type}

def fromRules (supply : Supplier σ) (element : Element) (rules : List (Nat × Rule)) :
    Traced σ (List Contribution) :=
  (rules.filter fun entry => element.meets entry.2).mapM fun (index, rule) => do
    let tokens ← supply rule.paintText .base
    Traced.note (.ruleMatched element.tag element.component index rule tokens)
    return ⟨.rule index, tokens⟩

def fromEntry (supply : Supplier σ) (source : Source) (variant : Variant) :
    Option Text → Traced σ (List Contribution)
  | none => pure []
  | some paintText => do return [⟨source, ← supply paintText variant⟩]

/-- A rule that gives no tokens does not stand in the way of the component's paint. -/
def resolveWith (supply : Supplier σ) (cascade : Cascade) (element : Element) :
    Traced σ Resolution := do
  let rules ← fromRules supply element cascade.book.rules
  let component ←
    if rules.all (·.tokens = []) then
      fromEntry supply .component .base cascade.config.components[element.component]?
    else pure []
  let dark ← fromEntry supply .darkMode .dark cascade.config.darkMode[element.component]?
  return .ofContributions (rules ++ component ++ dark)

/-- Tokens by way of the table. -/
def resolve (cascade : Cascade) (element : Element) : Traced TokenTable Resolution :=
  cascade.resolveWith (TokenTable.request cascade.config element.tag) element

/-- Tokens rendered anew each time. -/
def fresh (config : Configuration) (element : Element) : Supplier Unit :=
  fun paintText variant => pure (config.tokens element.tag paintText variant)

/-- The tokens of one element, with the rules read for it alone. -/
def resolveOnce (config : Configuration) (element : Element) : Outcome Unit (List Text) :=
  let cascade := ofConfiguration config
  let outcome := (cascade.resolveWith (fresh config element) element).run ()
  ⟨outcome.answer.tokens, cascade.skipped ++ outcome.events, ()⟩

end Cascade

end ThemeCascade
