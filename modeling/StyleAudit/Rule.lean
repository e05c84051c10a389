import StyleAudit.Names

/-!
The rules that are applied to a file, their settings in the recommended configuration, and the texts
of their messages in each language in which they can be shown.
-/

namespace StyleAudit

structure Rule where
  id : String
  kind : String
  description : String
  recommended : Bool
  severity : String
  fixable : Bool

namespace Rule

def noUnusedStyles : Rule where
  id := "no-unused-styles"
  kind := "suggestion"
  description := "Detects styles defined in StyleSheet.create in React Native that are not used"
  recommended := true
  severity := "warn"
  fixable := false

def all : List Rule := [noUnusedStyles]

def plugin : String := "react-native-unused-styles"

end Rule

structure RuleConfig where
  plugins : List String
  rules : List (String × String)

def RuleConfig.recommended : RuleConfig where
  plugins := [Rule.plugin]
  rules := [(Rule.plugin ++ "/" ++ Rule.noUnusedStyles.id, Rule.noUnusedStyles.severity)]

/-! ## Message languages -/

inductive Locale where
  | en
  | ja
  deriving Repr, DecidableEq, Inhabited

namespace Locale

def code : Locale → String
  | en => "en"
  | ja => "ja"

def all : List Locale := [en, ja]

def codes : List String := all.map code

def standard : Locale := en

def ofCode? (code : String) : Option Locale :=
  all.find? fun locale => locale.code = code

def codeList : String :=
  "[" ++ ", ".intercalate (codes.map fun code => "'" ++ code ++ "'") ++ "]"

def unusedStyle (locale : Locale) (name : String) : String :=
  match locale with
  | en => "Style '" ++ name ++ "' is defined but never used."
  | ja => "スタイル '" ++ name ++ "' は定義されていますが使用されていません。"

end Locale

structure UnsupportedLocale where
  code : String
  deriving Repr, DecidableEq

def UnsupportedLocale.message (e : UnsupportedLocale) : String :=
  "Unsupported locale: " ++ e.code ++ ". Must be one of " ++ Locale.codeList

def unusedStyleMessage (name code : String) : Except UnsupportedLocale String :=
  match Locale.ofCode? code with
  | some locale => .ok (locale.unusedStyle name)
  | none => .error ⟨code⟩

end StyleAudit
