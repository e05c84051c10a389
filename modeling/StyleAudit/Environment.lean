import StyleAudit.Names

/-!
The variables of a process, and what they tell about where it runs.
-/

namespace StyleAudit

abbrev Environment := Registry String

namespace Environment

/-- The variables by which services that run unattended jobs make themselves known. -/
def unattendedMarkers : List String :=
  ["GITHUB_ACTIONS", "CI", "GITLAB_CI", "CIRCLECI", "TRAVIS", "JENKINS_HOME"]

def isUnattended (env : Environment) : Bool :=
  unattendedMarkers.any fun name =>
    match env.get? name with
    | some value => !value.isEmpty
    | none => false

end Environment

end StyleAudit
