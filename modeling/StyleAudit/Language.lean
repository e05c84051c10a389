/-!
The languages in which component sources are written.
-/

namespace StyleAudit

inductive Language where
  | javascript
  | typescript
  | tsx
  deriving Repr, DecidableEq, Inhabited

structure UnsupportedLanguage where
  name : String
  deriving Repr, DecidableEq

def UnsupportedLanguage.message (e : UnsupportedLanguage) : String :=
  "Unsupported language: " ++ e.name

namespace Language

def name : Language → String
  | javascript => "javascript"
  | typescript => "typescript"
  | tsx => "tsx"

def ofName? (text : String) : Option Language :=
  [javascript, typescript, tsx].find? fun language => language.name = text

def ofName (text : String) : Except UnsupportedLanguage Language :=
  match ofName? text with
  | some language => .ok language
  | none => .error ⟨text⟩

def extensions : List (String × Language) :=
  [(".js", javascript), (".jsx", javascript), (".mjs", javascript), (".cjs", javascript),
    (".ts", typescript), (".tsx", tsx)]

def ofExtension? (extension : String) : Option Language :=
  (extensions.find? fun entry => entry.1 = extension).map (·.2)

end Language

end StyleAudit
