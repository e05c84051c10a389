import StyleAudit.Proofs.Reuse
import StyleAudit.Proofs.UsageMoves
import Mathlib.Logic.Function.Iterate

/-!
# An analyzer registered several times

A walker on which the same analyzer is registered several times hands every site to it as often, and
finalizes it as often. Taking in a site again leaves the symbol table as it is (`takeSite_takeSite`),
and so does finalizing again; a walk ends with the analyzer of a single registration.
-/

namespace StyleAudit

open Syntax

/-! ## Putting values twice -/

theorem latest_append_self {α : Type} (history members : List (String × α)) :
    latest (history ++ members ++ members) = latest (history ++ members) := by
  have names : ((history ++ members ++ members).map (·.1)).eraseDups =
      ((history ++ members).map (·.1)).eraseDups := by
    have none : (members.map (·.1)).removeAll ((history ++ members).map (·.1)) = [] := by
      rw [List.removeAll, List.filter_eq_nil_iff]
      intro name member
      simpa using fun _ => member
    rw [List.map_append, List.eraseDups_append, none, List.eraseDups_nil, List.append_nil]
  have values : ∀ name, (history ++ members ++ members).reverse.lookup name =
      (history ++ members).reverse.lookup name := by
    intro name
    simp only [List.reverse_append, List.lookup_append, ← Option.or_assoc, Option.or_self]
  simp only [latest, names, values]

theorem Registry.put_put {α : Type} (r : Registry α) (key : String) (first second : α) :
    (r.put key first).put key second = r.put key second := by
  obtain ⟨entries⟩ := r
  refine congrArg Registry.mk ?_
  induction entries with
  | nil => simp [put, putEntry]
  | cons entry rest ih =>
      by_cases same : entry.1 = key
      · simp [put, putEntry, same]
      · simpa [put, putEntry, same] using ih

theorem Registry.Records.putAll_putAll {α : Type} {r : Registry α} {history : List (String × α)}
    (records : r.Records history) (members : List (String × α)) :
    let put := fun (known : Registry α) (member : String × α) => known.put member.1 member.2
    members.foldl put (members.foldl put r) = members.foldl put r := by
  intro put
  have first := (records.putAll members).entries_eq
  have second := ((records.putAll members).putAll members).entries_eq
  rw [latest_append_self, ← first] at second
  exact congrArg Registry.mk second

/-! ## Taking in a site twice -/

namespace SymbolTable

variable {t : SymbolTable} {sites : List Site}

theorem recordUsages_again (t : SymbolTable) (names : List String) :
    (t.recordUsages names).recordUsages names = t.recordUsages names := by
  rw [recordUsages_recordUsages]
  exact t.recordUsages_congr fun x => by rw [List.mem_append, or_self]

theorem defineContainer_again (reads : t.Reads sites) (container : String)
    (members : List (String × Entry)) :
    (t.defineContainer container members).defineContainer container members =
      t.defineContainer container members := by
  simp only [defineContainer, reads.definitions.putAll_putAll members, Registry.put_put]

theorem takeSite_takeSite (reads : t.Reads sites) (s : Site) :
    (t.takeSite s).takeSite s = t.takeSite s := by
  cases declared : s.declaration? with
  | some d =>
      rw [takeSite_of_declaration declared, takeSite_of_declaration declared]
      exact defineContainer_again reads d.container d.members
  | none =>
      rw [takeSite_of_undeclared declared, takeSite_of_undeclared declared]
      exact t.recordUsages_again (s.uses t.containers)

theorem iterate_takeSite (reads : t.Reads sites) (s : Site) (times : Nat) :
    (fun known => takeSite known s)^[times + 1] t = t.takeSite s := by
  rw [Function.iterate_succ_apply]
  exact Function.iterate_fixed (takeSite_takeSite reads s) times

end SymbolTable

/-! ## Walks -/

def registeredTimes (times : Nat) : SessionWalker := SessionWalker.register^[times] Walker.empty

theorem registeredTimes_succ (times : Nat) :
    registeredTimes (times + 1) = (registeredTimes times).register :=
  Function.iterate_succ_apply' ..

theorem deliver_registeredTimes {s : Session} {t : SymbolTable} (traversing : s.analyzer = ⟨t, none⟩)
    (site : Site) (times : Nat) :
    ∃ next, Walker.deliver site (registeredTimes times).listeners s = ⟨next, none⟩ ∧
      next.analyzer = ⟨(fun known => known.takeSite site)^[times] t, none⟩ := by
  induction times with
  | zero => exact ⟨s, rfl, traversing⟩
  | succ times ih =>
      obtain ⟨between, delivered, reached⟩ := ih
      obtain ⟨next, deliveredLast, reachedLast⟩ := deliver_analyzer reached site
      refine ⟨next, ?_, ?_⟩
      · rw [registeredTimes_succ, SessionWalker.register, deliver_append, delivered]
        exact deliveredLast
      · rw [reachedLast, Function.iterate_succ_apply']

theorem feed_registeredTimes (times : Nat) (nodes : List Node) :
    ∃ last, (registeredTimes (times + 1)).feed nodes .fresh = ⟨last, none⟩ ∧
      last.analyzer = ⟨SymbolTable.empty.takeSites (nodes.filterMap lowerSite?), none⟩ := by
  -- Along the walk the table is always the reading of some sites, so that repetition adds nothing.
  refine feed_of_deliver (P := fun t => ∃ sites, t.Reads sites) ?_ ?_ rfl ⟨[], .of_empty⟩ nodes
  · rintro t site ⟨sites, reads⟩
    exact ⟨_, reads.takeSite site⟩
  · rintro s t site traversing ⟨sites, reads⟩
    rw [← SymbolTable.iterate_takeSite reads site times]
    exact deliver_registeredTimes traversing site (times + 1)

theorem foldl_exits_registeredTimes (times : Nat) (s : Session) :
    (registeredTimes (times + 1)).exits.foldl (fun session action => action session) s =
      s.finalize := by
  induction times with
  | zero => rfl
  | succ times ih =>
      obtain ⟨found, finalized⟩ := fixed_finalize s
      rw [registeredTimes_succ, SessionWalker.register, List.foldl_append, ih]
      exact finalize_of_finalized finalized

theorem walk_registeredTimes (times : Nat) (root : Node) :
    ∃ last, (registeredTimes (times + 1)).walk Session.counted root .fresh = ⟨last, none⟩ ∧
      last.analyzer = ⟨SymbolTable.empty.takeSites root.sites,
        some (Analyzer.unused (SymbolTable.empty.takeSites root.sites))⟩ := by
  obtain ⟨fed, complete, taken⟩ := feed_registeredTimes times root.preorder
  refine ⟨_, Walker.walk_of_complete complete Session.counted, ?_⟩
  rw [foldl_exits_registeredTimes]
  simp [Session.finalize, Session.counted, Session.note, Analyzer.finalize, taken, Node.sites]

theorem registered_again_changes_nothing (times : Nat) (root : Node) :
    ∃ once more : Session, examine root = ⟨once, none⟩ ∧
      (registeredTimes (times + 1)).walk Session.counted root .fresh = ⟨more, none⟩ ∧
      more.analyzer = once.analyzer ∧
      ∃ found, once.analyzer.findings = .ok found ∧ more.analyzer.findings = .ok found := by
  obtain ⟨once, examined, reached⟩ := walk_registeredTimes 0 root
  obtain ⟨more, walked, reachedToo⟩ := walk_registeredTimes times root
  refine ⟨once, more, examined, walked, reachedToo.trans reached.symm, ?_⟩
  rw [reached, reachedToo]
  exact ⟨_, rfl, rfl⟩

end StyleAudit
