import ServiceFlow.Yaml.Reader

/-!
# Scalars in documents

A plain scalar that starts with a zero and has the form of a whole number gets the tag of whole
numbers. Building the document gives a scalar the value that its tag reads its text as, and a
sequence of one scalar the list of that value.
-/

namespace ServiceFlow.Yaml

namespace Tag

variable {cs : List Char}

/-- No word for a truth value starts with a zero. -/
theorem not_truthWord_of_zero :
    (truthWords.any fun (word, _) => (casings word).contains (String.ofList ('0' :: cs))) =
      false := by
  have hwords : ∀ entry ∈ truthWords, ∀ word ∈ casings entry.1, word.toList.head? ≠ some '0' := by
    decide +kernel
  rw [List.any_eq_false]
  intro entry hentry hcontains
  have hmem := List.contains_iff_mem.mp hcontains
  refine hwords entry hentry _ hmem ?_
  rw [String.toList_ofList, List.head?_cons]

/-- A text that does not end in a line break is its own form. -/
theorem dropFinalBreak_ofList (h : cs.getLast? ≠ some '\n') :
    dropFinalBreak (String.ofList cs) = String.ofList cs := by
  unfold dropFinalBreak
  rw [String.toList_ofList]
  split
  · rename_i hreverse
    rw [← List.head?_reverse, hreverse] at h
    exact absurd rfl h
  · rfl

/-- A plain scalar that starts with a zero is a whole number when it has that form and no point. -/
theorem ofPlain_of_isIntForm (hbreak : ('0' :: cs).getLast? ≠ some '\n')
    (hfloat : isFloatForm ('0' :: cs) = false) (hint : isIntForm ('0' :: cs) = true) :
    ofPlain (String.ofList ('0' :: cs)) = .int := by
  have hne : String.ofList ('0' :: cs) ≠ "\n" := by
    intro heq
    have hlist := congrArg String.toList heq
    rw [String.toList_ofList] at hlist
    cases hlist
  rw [ofPlain, if_neg hne, dropFinalBreak_ofList hbreak, ofForm, not_truthWord_of_zero,
    String.toList_ofList, hfloat, hint]
  rfl

end Tag

namespace Build

variable {c : Construction} {n m : Nat} {s : Scalar}

/-- A scalar that has not been met before is read by its tag. -/
theorem run_item_of_toScalar (hnew : c.items.getD n none = none)
    (htag : (c.nodes.tag n).emptyParts? = none) (hs : c.nodes.toScalar n = .ok s) :
    (item n).run c =
      .ok (.scalar s, { c with items := c.items.setIfInBounds n (some (.scalar s)) }) := by
  rw [item, StateT.run_bind, StateT.run_get, pure_bind]
  simp only [hnew, htag, hs]
  rfl

/-- A sequence of one such scalar becomes the list of it. -/
theorem run_fill_singleton (hsequence : c.nodes.tag n = .sequence)
    (hcontent : c.nodes.content n = .sequence [m]) (hnew : c.items.getD m none = none)
    (htag : (c.nodes.tag m).emptyParts? = none) (hs : c.nodes.toScalar m = .ok s) :
    (fill n).run c = .ok ((), { c with
      items := c.items.setIfInBounds m (some (.scalar s))
      collections := c.collections.setIfInBounds n (.list [.scalar s]) }) := by
  have hparts : (parts n).run c = .ok (.list [.scalar s],
      { c with items := c.items.setIfInBounds m (some (.scalar s)) }) := by
    rw [parts, StateT.run_bind, StateT.run_get, pure_bind]
    simp only [hsequence, hcontent, List.mapM_cons, List.mapM_nil, StateT.run_bind,
      run_item_of_toScalar hnew htag hs]
    rfl
  rw [fill, StateT.run_bind, hparts]
  rfl

end Build

end ServiceFlow.Yaml
