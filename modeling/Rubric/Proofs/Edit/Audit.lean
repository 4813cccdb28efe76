import Rubric.Proofs.Edit.Ledger

/-! Logs of many applications to one document. Whatever rules each call brings along, the entries
for one section and one key form a chain: each one starts from the value that the one before it
left, the first from the value in the initial document, and the last one tells the final value. -/
namespace Rubric

/-- What a successful application leaves behind: its log, and the part of it that belongs to each
section, in the order of the sections. -/
structure Call where
  log : List Modification
  sublogs : List (List Modification)

namespace Call

def entriesAt (call : Call) (i : Nat) : List Modification :=
  call.sublogs.getD i []

def trail (calls : List Call) (i : Nat) : List Modification :=
  calls.flatMap (·.entriesAt i)

/-- The trail of a section is lengthened by the entries of the last call. -/
@[simp] theorem trail_concat (calls : List Call) (call : Call) (i : Nat) :
    trail (calls ++ [call]) i = trail calls i ++ call.entriesAt i := by
  simp [trail]

end Call

/-- Successful applications to one document, one after another, each with rules of its own. A
failed application is no part of a run. -/
inductive Runs (start : Document) : List Call → Document → Prop where
  | start : Runs start [] start
  | call {calls : List Call} {document : Document} {log : List Modification} (rules : List Rule)
      (prior : Runs start calls document) (last : (document.apply rules).result = .ok log) :
      Runs start (calls ++ [⟨log, document.map (·.sublog rules)⟩]) (document.apply rules).document

namespace Runs

variable {start final : Document} {calls : List Call}

/-- After a run each section is the initial one after the writes of its whole trail. -/
theorem getElem?_final (run : Runs start calls final) (i : Nat) :
    final[i]? = start[i]?.map fun s => s.after (Call.trail calls i) := by
  induction run with
  | start => simp [Call.trail]
  | @call calls document log rules prior last ih =>
      rw [Document.apply_document (Document.compiles_of_apply last), List.getElem?_map, ih]
      cases hStart : start[i]? with
      | none => rfl
      | some s => simp [Call.entriesAt, ih, hStart]

/-- The log of a call is made of the sub-logs of all sections, in their order. -/
theorem log_eq_flatten (run : Runs start calls final) :
    ∀ call ∈ calls, call.log = call.sublogs.flatten := by
  induction run with
  | start => simp
  | @call calls document log rules prior last ih =>
      have hResult := Document.apply_result (Document.compiles_of_apply last) document
      rw [last] at hResult
      simp only [List.mem_append, List.mem_singleton, or_imp, forall_and, forall_eq]
      refine ⟨ih, ?_⟩
      simpa [List.flatMap] using hResult

/-- An entry starts from what the calls before its own have left under its key. -/
theorem previous_eq (run : Runs start calls final) {c i : Nat} {call : Call} {m : Modification}
    (hCall : calls[c]? = some call) (hm : m ∈ call.entriesAt i) :
    ∃ s, start[i]? = some s ∧
      m.previous = (s.after (Call.trail (calls.take c) i)).value? m.key := by
  induction run with
  | start => simp at hCall
  | @call calls document log rules prior last ih =>
      have hBound := (List.getElem?_eq_some_iff.mp hCall).1
      simp only [List.length_append, List.length_singleton] at hBound
      by_cases hc : c < calls.length
      · rw [List.getElem?_append_left hc] at hCall
        rw [List.take_append_of_le_length (Nat.le_of_lt hc)]
        exact ih hCall
      · obtain rfl : c = calls.length := by omega
        obtain rfl : _ = call := by simpa using hCall
        have hDocument := prior.getElem?_final i
        cases hStart : start[i]? with
        | none => simp [Call.entriesAt, hDocument, hStart] at hm
        | some s =>
            have hRecords := (s.after (Call.trail calls i)).records_sublog
              (Document.compiles_of_apply last)
            have hSublog : m ∈ (s.after (Call.trail calls i)).sublog rules := by
              simpa [Call.entriesAt, hDocument, hStart] using hm
            exact ⟨s, rfl, by simpa using hRecords.previous m hSublog⟩

/-- The audit chain. The previous value of an entry is the value of the latest entry that an
earlier call has made for the same section and key. Where there is none it is the value of the
first line of that key in the initial section, if there is such a line. In the end the first line
of a key holds the value of the latest entry, or is the initial one where there is no entry. -/
theorem audit_chain (run : Runs start calls final) :
    (∀ call ∈ calls, call.log = call.sublogs.flatten) ∧
      (∀ (c i : Nat) (call : Call) (m : Modification), calls[c]? = some call →
        m ∈ call.entriesAt i → ∃ s, start[i]? = some s ∧
          m.previous = match Modification.latest? (Call.trail (calls.take c) i) m.key with
            | some prior => some prior.value
            | none => (s.first? m.key).bind Line.value) ∧
      final.length = start.length ∧
      ∀ (i : Nat) (s : Section), start[i]? = some s → ∃ t, final[i]? = some t ∧
        ∀ key, match Modification.latest? (Call.trail calls i) key with
          | some m => (t.first? key).bind Line.value = some m.value
          | none => t.first? key = s.first? key := by
  refine ⟨run.log_eq_flatten, ?_, ?_, ?_⟩
  · intro c i call m hCall hm
    obtain ⟨s, hs, hPrevious⟩ := run.previous_eq hCall hm
    refine ⟨s, hs, ?_⟩
    rw [hPrevious, Section.value?_after]
    cases Modification.latest? (Call.trail (calls.take c) i) m.key <;> rfl
  · apply Nat.le_antisymm
    · rw [← List.getElem?_eq_none_iff, run.getElem?_final]
      simp
    · rw [← List.getElem?_eq_none_iff]
      have hFinal := run.getElem?_final final.length
      simpa using hFinal.symm
  · intro i s hs
    refine ⟨_, by rw [run.getElem?_final, hs]; rfl, ?_⟩
    intro key
    rw [Section.first?_after]
    cases Modification.latest? (Call.trail calls i) key <;> rfl

/-- The rivals again, on what they have left: the first one replaces its own value. -/
theorem sublog_rivals_again : (Section.contested.after Section.contestedLog).sublog Rule.rivals =
    [⟨"A".toList, "rewrite".toList, "foo".toList, some "2".toList, "2".toList⟩,
      ⟨"A".toList, "add".toList, "run".toList, some "y".toList, "y".toList⟩] := by
  rw [Section.sublog_eq_entries Rule.compiles_rivals, Rule.ranked_rivals]
  decide

/-- Two calls. The second one finds the value that the first one wrote and tells it as the previous
one. -/
theorem audit_chain_rivals : ∃ first second final, Runs [.contested] [first, second] final ∧
    second.log = second.sublogs.flatten ∧
    ⟨"A".toList, "rewrite".toList, "foo".toList, some "2".toList, "2".toList⟩ ∈
      second.entriesAt 0 ∧
    (∀ m ∈ second.entriesAt 0, m.key = "foo".toList → m.previous = some "2".toList) ∧
    ∃ t, final = [t] ∧ (t.first? "foo".toList).bind Line.value = some "2".toList ∧
      (t.first? "run".toList).bind Line.value = some "y".toList ∧
      t.first? "bar".toList = none := by
  have hFirst := Runs.call Rule.rivals .start
    (Document.apply_result Rule.compiles_rivals [.contested])
  have hSecond := Runs.call Rule.rivals hFirst
    (Document.apply_result Rule.compiles_rivals _)
  have hLeft : (Document.apply Rule.rivals [.contested]).document =
      [Section.contested.after Section.contestedLog] := by
    rw [Document.apply_document Rule.compiles_rivals, List.map_singleton,
      Section.sublog_rivals_contested]
  rw [hLeft, List.map_singleton, List.map_singleton, Section.sublog_rivals_contested,
    sublog_rivals_again] at hSecond
  obtain ⟨hLog, hPrevious, hLength, hFinal⟩ := hSecond.audit_chain
  obtain ⟨t, ht, hLines⟩ := hFinal 0 _ rfl
  obtain ⟨u, hu⟩ := List.length_eq_one_iff.mp hLength
  obtain rfl : u = t := by simpa [hu] using ht
  refine ⟨_, _, _, hSecond, hLog _ (by simp), List.mem_cons_self, ?_, u, hu, ?_, ?_, ?_⟩
  · intro m hm hKey
    obtain ⟨s, -, hEntry⟩ := hPrevious 1 0 _ m rfl hm
    rw [hEntry, hKey]
    rfl
  · exact hLines "foo".toList
  · exact hLines "run".toList
  · exact hLines "bar".toList

end Runs
end Rubric
