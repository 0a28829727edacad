import PhoneticSearch.Encoding.Encoder
import PhoneticSearch.Proofs.Pattern.LongestMatch

/-!
# The choice of a pattern

* `Pattern.firstLongest`: of some patterns the first one that no other is longer than.
* `Segment.longestUpTo_eq_firstLongest`: rules that match as patterns fit find this pattern.
-/

namespace PhoneticSearch

namespace Pattern

/-- Of some patterns the first one that no other is longer than. -/
def firstLongest (fitting : List Pattern) : Option Pattern :=
  fitting.find? fun pattern => fitting.all fun other => decide (other.length ≤ pattern.length)

variable {patterns before after : List Pattern} {pattern : Pattern} {fits : Pattern → Bool}

theorem mem_of_firstLongest (h : firstLongest (patterns.filter fits) = some pattern) :
    pattern ∈ patterns ∧ fits pattern = true :=
  List.mem_filter.mp (List.mem_of_find?_eq_some h)

theorem firstLongest_eq_some (hsplit : patterns = before ++ pattern :: after)
    (hfits : fits pattern = true)
    (hbound : ∀ other ∈ patterns, fits other = true → other.length ≤ pattern.length)
    (hfirst : ∀ other ∈ before, fits other = true → other.length ≠ pattern.length) :
    firstLongest (patterns.filter fits) = some pattern := by
  rw [firstLongest, List.find?_filter, List.find?_eq_some_iff_append]
  refine ⟨?_, before, after, hsplit, fun other hother => ?_⟩
  · rw [decide_eq_true_eq]
    refine ⟨hfits, List.all_eq_true.mpr fun other hother => decide_eq_true ?_⟩
    rw [List.mem_filter] at hother
    exact hbound other hother.1 hother.2
  · -- an earlier pattern that fits has another length, so it is shorter
    rw [Bool.not_eq_true', decide_eq_false_iff_not]
    rintro ⟨hother', hall⟩
    have hmem : pattern ∈ patterns.filter fits := by simp [hsplit, hfits]
    have hlong := of_decide_eq_true (List.all_eq_true.mp hall pattern hmem)
    have hshort := hbound other (by simp [hsplit, hother]) hother'
    exact hfirst other hother hother' (Nat.le_antisymm hshort hlong)

end Pattern

namespace Segment

variable {rules : List Rule} {patterns : List Pattern} {fits : Pattern → Bool} {text : List Char}

/-- Rules that match the prefixes of a text as the patterns of their length fit it. -/
theorem longestUpTo_eq_firstLongest
    (hlength : ∀ pattern ∈ patterns, fits pattern = true →
      0 < pattern.length ∧ pattern.length ≤ text.length)
    (hmatching : ∀ n ≤ text.length, matching? Rule.automaton rules (text.take n) =
      (patterns.find? fun pattern => pattern.length == n && fits pattern).map Rule.ofPattern) :
    longestUpTo Rule.automaton rules text text.length =
      (Pattern.firstLongest (patterns.filter fits)).map fun pattern =>
        (Rule.ofPattern pattern, pattern.length) := by
  have hne : ∀ pattern ∈ patterns, fits pattern = true →
      matching? Rule.automaton rules (text.take pattern.length) ≠ none := by
    intro pattern hmem hfits hnone
    rw [hmatching _ (hlength pattern hmem hfits).2, Option.map_eq_none_iff,
      List.find?_eq_none] at hnone
    exact hnone pattern hmem (by simp [hfits])
  cases h : longestUpTo Rule.automaton rules text text.length with
  | none =>
    rw [longestUpTo_eq_none_iff] at h
    have hnone : patterns.filter fits = [] := by
      rw [List.filter_eq_nil_iff]
      intro pattern hmem hfits
      obtain ⟨hpos, hle⟩ := hlength pattern hmem hfits
      exact hne pattern hmem hfits (h pattern.length hpos hle)
    rw [hnone]
    rfl
  | some found =>
    obtain ⟨rule, n⟩ := found
    rw [longestUpTo_eq_some_iff] at h
    obtain ⟨-, hle, hmatch, hlonger⟩ := h
    rw [hmatching n hle, Option.map_eq_some_iff] at hmatch
    obtain ⟨pattern, hfind, rfl⟩ := hmatch
    have hbound : ∀ other ∈ patterns, fits other = true → other.length ≤ n := by
      intro other hmem hfits
      apply Nat.le_of_not_lt
      intro hlt
      exact hne other hmem hfits (hlonger other.length hlt (hlength other hmem hfits).2)
    rw [List.find?_eq_some_iff_append] at hfind
    obtain ⟨hpattern, before, after, hsplit, hbefore⟩ := hfind
    rw [Bool.and_eq_true, beq_iff_eq] at hpattern
    obtain ⟨rfl, hfits⟩ := hpattern
    have hchoose : Pattern.firstLongest (patterns.filter fits) = some pattern := by
      apply Pattern.firstLongest_eq_some hsplit hfits hbound
      intro other hother hother' hlength
      simpa [hlength, hother'] using hbefore other hother
    rw [hchoose]
    rfl

end Segment
end PhoneticSearch
