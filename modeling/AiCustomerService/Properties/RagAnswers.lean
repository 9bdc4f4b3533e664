import AiCustomerService.Properties.RagSearch

/-!
# Answers from the knowledge base are grounded

A matched answer is the content of the best document that the question may be answered from, and
the answer without a context differs from the one of a context only for the lowest score.
-/

namespace AiCustomerService

open Support

variable {rt : Runtime} {s : NodeState}

/-! ## The documents of a context -/

theorem mem_selectDocuments {documents : List RankedDocument} {candidate : Option String}
    {maxDocs : Nat} {item : RankedDocument}
    (h : item ∈ selectDocuments rt documents candidate maxDocs) :
    item ∈ documents ∧ isAllowedFaqDocument rt item.title item.metadataJson = true ∧
      ∀ intent ∈ candidate, documentFaqIntent rt item.title item.metadataJson = some intent := by
  unfold selectDocuments at h
  obtain ⟨hmem, hcandidate⟩ := List.mem_filter.mp (List.mem_of_mem_take h)
  obtain ⟨hmem, hallowed⟩ := List.mem_filter.mp hmem
  refine ⟨hmem, hallowed, fun intent hintent => ?_⟩
  rw [Option.mem_def.mp hintent] at hcandidate
  simpa using hcandidate

/-- The payload of a document is allowed where the document is. -/
theorem filter_payloads {documents : List RankedDocument}
    (h : ∀ item ∈ documents, isAllowedFaqDocument rt item.title item.metadataJson = true) :
    ((documents.map ragDocumentPayload).filter fun document =>
      isAllowedFaqDocument rt document.title document.metadataJson) =
        documents.map ragDocumentPayload := by
  refine List.filter_eq_self.mpr fun payload hpayload => ?_
  obtain ⟨item, hitem, rfl⟩ := List.mem_map.mp hpayload
  exact h item hitem

/-- The answer from the documents of a context. -/
theorem buildAnswer_payloads {best : RankedDocument} {others : List RankedDocument}
    (h : ∀ item ∈ best :: others, isAllowedFaqDocument rt item.title item.metadataJson = true) :
    buildAnswerFromContext rt ((best :: others).map ragDocumentPayload) none =
      ⟨true, textOr (some best.content) ragFallbackAnswer,
        ((best :: others).map ragDocumentPayload).map ragDocumentSummary, none⟩ := by
  unfold buildAnswerFromContext
  rw [if_neg (by simp), if_neg (by simp), filter_payloads h]
  rfl

namespace RagService

/-- The documents that the service may answer a state from. -/
def Admits (service : RagService) (rt : Runtime) (s : NodeState) (document : KnowledgeDocument) :
    Prop :=
  match service.knowledgeRepository with
  | some rows =>
      document.Searchable rt rows (s.textOrDefault rt "tenant_id") (s.textOrDefault rt "kb_scope")
  | none =>
      document.StaticallySearchable rt (s.textOrDefault rt "tenant_id")
        (s.textOrDefault rt "kb_scope")

/-- A document ranked for the question of a state. -/
def rankFor (service : RagService) (rt : Runtime) (s : NodeState) (document : KnowledgeDocument) :
    RankedDocument :=
  match service.knowledgeRepository with
  | some _ => document.ranked rt (strip (s.retrievalQuery rt)) none
  | none => document.ranked rt (s.retrievalQuery rt) (s.questionLanguage rt)

/-- The search of the service. -/
def found (service : RagService) (rt : Runtime) (s : NodeState) : List RankedDocument :=
  let candidate := s.candidateFaqIntent rt
  match service.knowledgeRepository with
  | some rows =>
      searchKnowledgeDocuments rt rows (s.textOrDefault rt "tenant_id") (s.retrievalQuery rt)
        (s.textOrDefault rt "kb_scope") (service.searchLimit candidate)
  | none =>
      searchStaticKnowledge rt (s.textOrDefault rt "tenant_id") (s.retrievalQuery rt)
        (s.textOrDefault rt "kb_scope") (service.searchLimit candidate) (s.questionLanguage rt)

theorem documents_eq (service : RagService) (rt : Runtime) (s : NodeState) :
    service.documents rt s =
      selectDocuments rt (service.found rt s) (s.candidateFaqIntent rt) service.maxDocs := rfl

/-- What the search of the service returns. -/
theorem found_spec (service : RagService) (rt : Runtime) (s : NodeState) :
    (service.found rt s).Pairwise (fun a b => a.rankKey ≤ b.rankKey) ∧
      (∀ item ∈ service.found rt s, service.Admits rt s item.toKnowledgeDocument ∧
        item = service.rankFor rt s item.toKnowledgeDocument) ∧
      ∀ document, service.Admits rt s document → 0 < (service.rankFor rt s document).score →
        service.rankFor rt s document ∈ service.found rt s ∨
          ∀ item ∈ service.found rt s, item.rankKey ≤ (service.rankFor rt s document).rankKey := by
  unfold found Admits rankFor
  cases service.knowledgeRepository with
  | some rows =>
      have hfinds := searchKnowledgeDocuments_findsBest rt rows (s.textOrDefault rt "tenant_id")
        (s.retrievalQuery rt) (s.textOrDefault rt "kb_scope")
        (service.searchLimit (s.candidateFaqIntent rt))
      exact ⟨hfinds.sorted, fun item hitem => ⟨(hfinds.sound item hitem).1,
        (hfinds.sound item hitem).2.1⟩, fun document hadmits hscore =>
          (hfinds.complete document hadmits hscore).imp_right And.right⟩
  | none =>
      have hfinds := searchStaticKnowledge_findsBest rt (s.textOrDefault rt "tenant_id")
        (s.retrievalQuery rt) (s.textOrDefault rt "kb_scope")
        (service.searchLimit (s.candidateFaqIntent rt)) (s.questionLanguage rt)
      exact ⟨hfinds.sorted, fun item hitem => ⟨(hfinds.sound item hitem).1,
        (hfinds.sound item hitem).2.1⟩, fun document hadmits hscore =>
          (hfinds.complete document hadmits hscore).imp_right And.right⟩

/-- What `retrieve` returns, by cases. -/
theorem retrieve_matched {service : RagService} {context : RagContext}
    (h : service.retrieve rt s = .ok context) (hmatched : context.matched = true) :
    s.asksBackendFact rt = false ∧ s.retrievalQuery rt ≠ "" ∧
      ∃ best others, service.documents rt s = best :: others ∧ service.minScore ≤ best.score ∧
        context.documents = (best :: others).map ragDocumentPayload ∧
        context.fallbackReason = none := by
  unfold retrieve at h
  split at h
  · obtain rfl := Except.ok.inj h
    cases hmatched
  next hguard =>
    split at h
    · obtain rfl := Except.ok.inj h
      cases hmatched
    next hquery =>
      split at h
      · obtain rfl := Except.ok.inj h
        cases hmatched
      next best others hdocuments =>
        split at h
        · obtain rfl := Except.ok.inj h
          cases hmatched
        next hscore =>
          obtain ⟨blocks, -, hcontext⟩ := bind_eq_ok.mp h
          obtain rfl := Except.ok.inj hcontext
          exact ⟨Bool.eq_false_of_not_eq_true hguard, hquery, best, others, hdocuments,
            Nat.le_of_not_lt hscore, rfl, rfl⟩

/-- The first of the selected documents comes before all that could have been selected. -/
theorem best_le {service : RagService} {best : RankedDocument} {others : List RankedDocument}
    (h : service.documents rt s = best :: others) {document : KnowledgeDocument}
    (hadmits : service.Admits rt s document)
    (hscore : 0 < (service.rankFor rt s document).score)
    (hallowed : isAllowedFaqDocument rt document.title document.metadataJson = true)
    (hcandidate : ∀ intent ∈ s.candidateFaqIntent rt,
      documentFaqIntent rt document.title document.metadataJson = some intent) :
    best.rankKey ≤ (service.rankFor rt s document).rankKey := by
  obtain ⟨hsorted, -, hcomplete⟩ := found_spec service rt s
  rw [documents_eq] at h
  have hbest : best ∈ service.found rt s :=
    (mem_selectDocuments (h ▸ List.mem_cons_self)).1
  rcases hcomplete document hadmits hscore with hfound | hlast
  · have hdocument : (service.rankFor rt s document).toKnowledgeDocument = document := by
      unfold rankFor
      split <;> rfl
    unfold selectDocuments at h
    dsimp only at h
    have hkept : service.rankFor rt s document ∈
        ((service.found rt s).filter fun item =>
          isAllowedFaqDocument rt item.title item.metadataJson).filter fun item =>
            (s.candidateFaqIntent rt).all fun intent =>
              documentFaqIntent rt item.title item.metadataJson = some intent := by
      rw [List.mem_filter, List.mem_filter, hdocument]
      refine ⟨⟨hfound, hallowed⟩, ?_⟩
      cases hintent : s.candidateFaqIntent rt with
      | none => rfl
      | some intent => simpa using hcandidate intent hintent
    have hkeptSorted := (hsorted.filter fun item =>
      isAllowedFaqDocument rt item.title item.metadataJson).filter fun item =>
        (s.candidateFaqIntent rt).all fun intent =>
          documentFaqIntent rt item.title item.metadataJson = some intent
    generalize ((service.found rt s).filter _).filter _ = kept at h hkept hkeptSorted
    cases kept with
    | nil => cases hkept
    | cons first rest =>
        have hfirst : first = best := by
          cases hmax : service.maxDocs with
          | zero => rw [hmax] at h; cases h
          | succ n =>
              rw [hmax, List.take_succ_cons] at h
              exact (List.cons.inj h).1
        subst hfirst
        rcases List.mem_cons.mp hkept with heq | hrest
        · rw [heq]
        · exact (List.pairwise_cons.mp hkeptSorted).1 _ hrest
  · exact hlast best hbest

end RagService

/-- A customer asks for pix. -/
def pixState : NodeState := ⟨Dict.ofList [("raw_user_input", .str "pix")], [], [], none⟩

/-- The guide about deposits is stored. -/
def pixService : RagService := { knowledgeRepository := some [depositGuide] }

theorem documents_pix :
    pixService.documents .plain pixState = [depositGuide.ranked .plain "pix" none] := by
  have hrows : searchableRows .plain [depositGuide] "default" "default" = [depositGuide] := by
    unfold searchableRows
    rw [show ([depositGuide].filter fun row => row.isSelected .plain "default" "default") =
      [depositGuide] from rfl, List.mergeSort_singleton]
    rfl
  have hfound : pixService.found .plain pixState = [depositGuide.ranked .plain "pix" none] := by
    change searchKnowledgeDocuments .plain [depositGuide] "default" "pix" "default" 3 = _
    rw [searchKnowledgeDocuments_eq, hrows]
    unfold topK
    rw [show scoredDocuments .plain [depositGuide] (strip "pix") none =
      [depositGuide.ranked .plain "pix" none] from rfl, List.mergeSort_singleton]
    rfl
  rw [RagService.documents_eq, hfound]
  rfl

theorem answerBlocks_default {document : KnowledgeDocument}
    (h : document ∈ defaultKnowledgeDocuments) : document.answerBlocks = .null := by
  simp only [defaultKnowledgeDocuments, List.mem_cons, List.not_mem_nil, or_false] at h
  rcases h with rfl | rfl | rfl | rfl <;> rfl

/-- The static documents have no blocks that could be refused. -/
theorem answerBlocksForDocument_found {item : RankedDocument}
    (h : item ∈ ({} : RagService).documents rt s) :
    answerBlocksForDocument rt item.toKnowledgeDocument =
      .ok (defaultTextAnswerBlocks item.content) := by
  rw [RagService.documents_eq] at h
  have hadmits := ((RagService.found_spec {} rt s).2.1 item (mem_selectDocuments h).1).1
  have hnull := answerBlocks_default hadmits.1
  unfold answerBlocksForDocument
  rw [hnull]
  rfl

theorem searchLimit_default (candidate : Option String) :
    ({} : RagService).searchLimit candidate = if candidate.isSome then 10 else 3 := by
  unfold RagService.searchLimit
  split <;> rfl

theorem answerFromStaticKnowledge_eq (hguard : s.asksBackendFact rt = false)
    (hquery : s.retrievalQuery rt ≠ "") :
    answerFromStaticKnowledge rt s =
      buildAnswerFromContext rt ((({} : RagService).documents rt s).map ragDocumentPayload)
        none := by
  unfold answerFromStaticKnowledge
  rw [if_neg (by simp [hguard]), if_neg hquery, RagService.documents_eq]
  unfold RagService.found
  dsimp only
  rw [searchLimit_default]
  generalize selectDocuments rt _ (s.candidateFaqIntent rt) 3 = documents
  cases documents with
  | nil => rfl
  | cons first rest => rfl

/-- Without a repository the context never fails, and the answer read from it is the one that is
given without a context, unless the best document has the lowest score. -/
theorem static_answer_agrees (rt : Runtime) (s : NodeState) :
    ∃ context, ({} : RagService).retrieve rt s = .ok context ∧
      (answerFromRagContext rt context = answerFromStaticKnowledge rt s ↔
        s.asksBackendFact rt = true ∨ s.retrievalQuery rt = "" ∨
          ∀ best ∈ (({} : RagService).documents rt s).head?, best.score ≠ 1) := by
  by_cases hguard : s.asksBackendFact rt = true
  · refine ⟨_, if_pos hguard, iff_of_true ?_ (.inl hguard)⟩
    unfold answerFromStaticKnowledge
    rw [if_pos hguard]
    rfl
  by_cases hquery : s.retrievalQuery rt = ""
  · refine ⟨_, by unfold RagService.retrieve; rw [if_neg hguard, if_pos hquery],
      iff_of_true ?_ (.inr (.inl hquery))⟩
    unfold answerFromStaticKnowledge
    rw [if_neg hguard, if_pos hquery]
    rfl
  rw [answerFromStaticKnowledge_eq (Bool.eq_false_of_not_eq_true hguard) hquery]
  unfold RagService.retrieve
  rw [if_neg hguard, if_neg hquery]
  have hadmitted : ∀ item ∈ ({} : RagService).documents rt s, 0 < item.score ∧
      isAllowedFaqDocument rt item.title item.metadataJson = true := by
    intro item hitem
    have hselected := mem_selectDocuments (RagService.documents_eq {} rt s ▸ hitem)
    have hfinds := searchStaticKnowledge_findsBest rt (s.textOrDefault rt "tenant_id")
      (s.retrievalQuery rt) (s.textOrDefault rt "kb_scope")
      (({} : RagService).searchLimit (s.candidateFaqIntent rt)) (s.questionLanguage rt)
    exact ⟨(hfinds.sound item hselected.1).2.2, hselected.2.1⟩
  have hblocks := fun item hitem => @answerBlocksForDocument_found rt s item hitem
  generalize ({} : RagService).documents rt s = documents at hadmitted hblocks
  cases documents with
  | nil => exact ⟨_, rfl, iff_of_true rfl (.inr (.inr (by simp)))⟩
  | cons best others =>
      have hanswer := buildAnswer_payloads fun item hitem => (hadmitted item hitem).2
      have hpositive := (hadmitted best List.mem_cons_self).1
      dsimp only
      by_cases hlow : best.score < 2
      · rw [if_pos hlow]
        refine ⟨_, rfl, iff_of_false ?_ ?_⟩
        · intro hsame
          rw [hanswer] at hsame
          cases congrArg RagAnswer.matched hsame
        · rintro (h | h | h)
          · exact hguard h
          · exact hquery h
          · exact h best rfl (by omega)
      · rw [if_neg hlow, hblocks best List.mem_cons_self]
        refine ⟨_, rfl, iff_of_true ?_ (.inr (.inr ?_))⟩
        · rfl
        · intro first hfirst
          obtain rfl := Option.some.inj hfirst
          omega

end AiCustomerService
