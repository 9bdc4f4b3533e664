import AiCustomerService.Services.Rag

/-!
# What a search of the knowledge base finds

A search returns the best of the documents that it may return, and a document that is given more
keywords or more aliases is not found less often.
-/

namespace AiCustomerService

open Support

variable {rt : Runtime}

/-! ## The documents that score -/

/-- A document with its ranking for a query. -/
def KnowledgeDocument.ranked (rt : Runtime) (query : String) (language : Option String)
    (document : KnowledgeDocument) : RankedDocument :=
  { toKnowledgeDocument := document
    toRanking := rankKnowledgeDocument rt document query language }

theorem mem_scoredDocuments {documents : List KnowledgeDocument} {query : String}
    {language : Option String} {item : RankedDocument} :
    item ∈ scoredDocuments rt documents query language ↔
      item.toKnowledgeDocument ∈ documents ∧
        item = item.toKnowledgeDocument.ranked rt query language ∧ 0 < item.score := by
  unfold scoredDocuments
  rw [List.mem_filterMap]
  constructor
  · rintro ⟨document, hmem, hitem⟩
    dsimp only at hitem
    split at hitem
    next hscore =>
      obtain rfl := Option.some.inj hitem
      exact ⟨hmem, rfl, hscore⟩
    · cases hitem
  · rintro ⟨hmem, hitem, hscore⟩
    refine ⟨item.toKnowledgeDocument, hmem, ?_⟩
    have hpositive : 0 < (rankKnowledgeDocument rt item.toKnowledgeDocument query language).score := by
      rw [hitem] at hscore
      exact hscore
    dsimp only
    rw [if_pos hpositive]
    exact congrArg some hitem.symm

/-- The result of a search among the documents that it admits. -/
structure FindsBest (rt : Runtime) (query : String) (language : Option String)
    (admits : KnowledgeDocument → Prop) (limit : Nat) (found : List RankedDocument) : Prop where
  sorted : found.Pairwise fun a b => a.rankKey ≤ b.rankKey
  sound : ∀ item ∈ found, admits item.toKnowledgeDocument ∧
    item = item.toKnowledgeDocument.ranked rt query language ∧ 0 < item.score
  complete : ∀ document, admits document → 0 < (document.ranked rt query language).score →
    document.ranked rt query language ∈ found ∨
      found.length = limit ∧
        ∀ item ∈ found, item.rankKey ≤ (document.ranked rt query language).rankKey

/-- The first documents of a list are the best of it. -/
theorem findsBest_topK {documents : List KnowledgeDocument} {admits : KnowledgeDocument → Prop}
    (h : ∀ document, document ∈ documents ↔ admits document) (query : String)
    (language : Option String) (limit : Nat) :
    FindsBest rt query language admits limit
      (topK RankedDocument.rankKey limit (scoredDocuments rt documents query language)) where
  sorted := topK_pairwise _ _ _
  sound item hitem := by
    obtain ⟨hmem, hranked, hscore⟩ := mem_scoredDocuments.mp (mem_of_mem_topK hitem)
    exact ⟨(h _).mp hmem, hranked, hscore⟩
  complete document hadmits hscore := by
    have hscored : document.ranked rt query language ∈
        scoredDocuments rt documents query language :=
      mem_scoredDocuments.mpr ⟨(h document).mpr hadmits, rfl, hscore⟩
    by_cases hroom : (scoredDocuments rt documents query language).length ≤ limit
    · left
      exact (topK_perm hroom).mem_iff.mpr hscored
    · by_cases hin : document.ranked rt query language ∈
          topK RankedDocument.rankKey limit (scoredDocuments rt documents query language)
      · exact .inl hin
      · right
        refine ⟨?_, fun item hitem => le_of_not_mem_topK hitem hscored hin⟩
        rw [length_topK]
        omega

/-- What `search` of the repository may return. -/
def KnowledgeDocument.Searchable (rt : Runtime) (rows : List KnowledgeDocument)
    (tenantId kbScope : String) (document : KnowledgeDocument) : Prop :=
  document ∈ rows ∧ document.isSelected rt tenantId kbScope = true ∧
    isAllowedFaqDocument rt document.title document.metadataJson = true

/-- What the search of the static documents may return. -/
def KnowledgeDocument.StaticallySearchable (rt : Runtime) (tenantId kbScope : String)
    (document : KnowledgeDocument) : Prop :=
  document ∈ defaultKnowledgeDocuments ∧ document.isVisible tenantId kbScope = true ∧
    isAllowedFaqDocument rt document.title document.metadataJson = true

theorem searchKnowledgeDocuments_findsBest (rt : Runtime) (rows : List KnowledgeDocument)
    (tenantId query kbScope : String) (limit : Nat) :
    FindsBest rt (strip query) none (KnowledgeDocument.Searchable rt rows tenantId kbScope) limit
      (searchKnowledgeDocuments rt rows tenantId query kbScope limit) := by
  refine findsBest_topK (fun document => ?_) (strip query) none limit
  rw [List.mem_filter, (List.mergeSort_perm _ _).mem_iff, List.mem_filter]
  exact and_assoc

theorem searchStaticKnowledge_findsBest (rt : Runtime) (tenantId query kbScope : String)
    (limit : Nat) (language : Option String) :
    FindsBest rt query language (KnowledgeDocument.StaticallySearchable rt tenantId kbScope) limit
      (searchStaticKnowledge rt tenantId query kbScope limit language) := by
  refine findsBest_topK (fun document => ?_) query language limit
  rw [List.mem_filter, Bool.and_eq_true]
  exact and_congr_right fun _ => and_comm

/-- Both searches return documents that they may return and that score, in their order, and leave
out one that scores only where the limit is reached by documents that do not come after it. -/
theorem search_finds_best (rt : Runtime) (rows : List KnowledgeDocument)
    (tenantId query kbScope : String) (limit : Nat) (language : Option String) :
    FindsBest rt (strip query) none (KnowledgeDocument.Searchable rt rows tenantId kbScope) limit
        (searchKnowledgeDocuments rt rows tenantId query kbScope limit) ∧
      FindsBest rt query language (KnowledgeDocument.StaticallySearchable rt tenantId kbScope) limit
        (searchStaticKnowledge rt tenantId query kbScope limit language) :=
  ⟨searchKnowledgeDocuments_findsBest rt rows tenantId query kbScope limit,
    searchStaticKnowledge_findsBest rt tenantId query kbScope limit language⟩

/-! ## More keywords, more aliases -/

/-- The document with more keywords and aliases. -/
def KnowledgeDocument.extend (document : KnowledgeDocument) (keywords aliases : List String) :
    KnowledgeDocument :=
  { document with
    keywords := document.keywords ++ keywords
    questionAliases := document.questionAliases ++ aliases }

/-- The texts of one document are among those of another with the same title and content. -/
structure SearchTexts.Within (texts more : SearchTexts) : Prop where
  title : more.title = texts.title
  content : more.content = texts.content
  keywords : texts.keywords ⊆ more.keywords
  aliases : texts.questionAliases ⊆ more.questionAliases

theorem within_extend (rt : Runtime) (document : KnowledgeDocument)
    (keywords aliases : List String) :
    (document.searchTexts rt).Within ((document.extend keywords aliases).searchTexts rt) where
  title := rfl
  content := rfl
  keywords := List.map_subset _ (List.subset_append_left _ _)
  aliases := List.map_subset _ (List.subset_append_left _ _)

theorem totalPoints_append (hits more : List Hit) :
    totalPoints (hits ++ more) = totalPoints hits + totalPoints more := by
  simp [totalPoints]

/-- A hit that is found among some texts is found among more. -/
theorem points_find_le {points : Nat} {texts more : List String} {passes : String → Bool}
    {hit : String → Hit} (hpoints : ∀ text, (hit text).points = points) (h : texts ⊆ more) :
    totalPoints ((texts.find? passes).map hit).toList ≤
      totalPoints ((more.find? passes).map hit).toList := by
  cases hfound : texts.find? passes with
  | none => exact Nat.zero_le _
  | some text =>
      have hmore : (more.find? passes).isSome = true :=
        List.find?_isSome.mpr
          ⟨text, h (List.mem_of_find?_eq_some hfound), List.find?_some hfound⟩
      obtain ⟨other, hother⟩ := Option.isSome_iff_exists.mp hmore
      rw [hother]
      simp [totalPoints, hpoints]

/-- A condition that holds more often scores at least as much. -/
theorem points_if_le {condition condition' : Bool} (h : condition = true → condition' = true)
    (hit hit' : Hit) (hpoints : hit'.points = hit.points) :
    totalPoints (if condition then [hit] else []) ≤
      totalPoints (if condition' then [hit'] else []) := by
  cases hcondition : condition with
  | false => exact Nat.zero_le _
  | true => simp [h hcondition, totalPoints, hpoints]

theorem any_mono {texts more : List String} (h : texts ⊆ more) (passes : String → Bool)
    (hany : texts.any passes = true) : more.any passes = true := by
  obtain ⟨text, hmem, hpasses⟩ := List.any_eq_true.mp hany
  exact List.any_eq_true.mpr ⟨text, h hmem, hpasses⟩

theorem queryHits_le {texts more : SearchTexts} (h : texts.Within more) (query : String) :
    totalPoints (queryHits texts query) ≤ totalPoints (queryHits more query) := by
  unfold queryHits
  simp only [totalPoints_append]
  refine Nat.add_le_add (Nat.add_le_add (Nat.add_le_add ?_ ?_) ?_) ?_
  · rw [h.title]
  · exact points_find_le (fun _ => rfl) h.keywords
  · exact points_find_le (fun _ => rfl) h.aliases
  · exact points_find_le (fun _ => rfl) h.aliases

theorem tokenHits_le {texts more : SearchTexts} (h : texts.Within more) (token : String) :
    totalPoints (tokenHits texts token) ≤ totalPoints (tokenHits more token) := by
  unfold tokenHits
  simp only [totalPoints_append]
  refine Nat.add_le_add (Nat.add_le_add (Nat.add_le_add ?_ ?_) ?_) ?_
  · rw [h.title]
  · exact points_if_le (any_mono h.keywords _) _ _ rfl
  · exact points_if_le (any_mono h.aliases _) _ _ rfl
  · rw [h.content]

theorem documentHits_le (document : KnowledgeDocument) (keywords aliases : List String)
    (query : String) :
    totalPoints (documentHits rt document query) ≤
      totalPoints (documentHits rt (document.extend keywords aliases) query) := by
  have hwithin := within_extend rt document keywords aliases
  unfold documentHits
  simp only [totalPoints_append]
  refine Nat.add_le_add (queryHits_le hwithin _) ?_
  induction queryTokens rt query with
  | nil => exact Nat.le_refl _
  | cons token rest ih =>
      simp only [List.flatMap_cons, totalPoints_append]
      exact Nat.add_le_add (tokenHits_le hwithin token) ih

/-- A document with more keywords and aliases does not score less. -/
theorem score_le_extend (document : KnowledgeDocument) (keywords aliases : List String)
    (query : String) (language : Option String) :
    (document.ranked rt query language).score ≤
      ((document.extend keywords aliases).ranked rt query language).score := by
  have hle := @documentHits_le rt document keywords aliases query
  have hlanguage : speaksLanguage rt (document.extend keywords aliases) language =
      speaksLanguage rt document language := rfl
  unfold KnowledgeDocument.ranked rankKnowledgeDocument
  split
  · exact Nat.le_refl _
  · dsimp only
    rw [hlanguage]
    split
    next hbonus =>
      rw [Bool.and_eq_true, decide_eq_true_eq] at hbonus
      rw [if_pos (by rw [hbonus.1, decide_eq_true (hbonus.2.trans_le hle)]; rfl)]
      exact Nat.add_le_add_right hle 1
    · split
      · exact hle.trans (Nat.le_succ _)
      · exact hle

/-! ## The extended document is still found -/

/-- The rows among which `search` ranks, in the order in which they are read. -/
def searchableRows (rt : Runtime) (rows : List KnowledgeDocument) (tenantId kbScope : String) :
    List KnowledgeDocument :=
  ((rows.filter fun row => row.isSelected rt tenantId kbScope).mergeSort fun a b =>
    a.priority < b.priority || (a.priority = b.priority && decide (a.id ≤ b.id))).filter
      fun document => isAllowedFaqDocument rt document.title document.metadataJson

theorem searchKnowledgeDocuments_eq (rt : Runtime) (rows : List KnowledgeDocument)
    (tenantId query kbScope : String) (limit : Nat) :
    searchKnowledgeDocuments rt rows tenantId query kbScope limit =
      topK RankedDocument.rankKey limit
        (scoredDocuments rt (searchableRows rt rows tenantId kbScope) (strip query) none) := rfl

theorem ids_scoredDocuments_sublist (documents : List KnowledgeDocument) (query : String)
    (language : Option String) :
    ((scoredDocuments rt documents query language).map fun item => item.id).Sublist
      (documents.map KnowledgeDocument.id) := by
  induction documents with
  | nil => exact List.Sublist.refl _
  | cons document rest ih =>
      unfold scoredDocuments at ih ⊢
      rw [List.filterMap_cons, List.map_cons]
      dsimp only
      split
      next hnone => exact ih.cons _
      next item hitem =>
        split at hitem
        · obtain rfl := Option.some.inj hitem
          exact ih.cons_cons _
        · cases hitem

/-- Documents with different ids have different keys. -/
theorem nodup_rankKey {documents : List KnowledgeDocument}
    (hids : (documents.map KnowledgeDocument.id).Nodup) (query : String)
    (language : Option String) :
    ((scoredDocuments rt documents query language).map RankedDocument.rankKey).Nodup := by
  have hscored := hids.sublist (@ids_scoredDocuments_sublist rt documents query language)
  refine List.Nodup.of_map (fun key => (ofLex (ofLex key).2).2) ?_
  rw [List.map_map]
  exact hscored

theorem nodup_searchableRows {rows : List KnowledgeDocument}
    (hids : (rows.map KnowledgeDocument.id).Nodup) (tenantId kbScope : String) :
    ((searchableRows rt rows tenantId kbScope).map KnowledgeDocument.id).Nodup := by
  have hfiltered : ((rows.filter fun row => row.isSelected rt tenantId kbScope).map
      KnowledgeDocument.id).Nodup := hids.sublist (List.filter_sublist.map _)
  have hsorted := ((List.mergeSort_perm (rows.filter fun row =>
    row.isSelected rt tenantId kbScope) fun a b => a.priority < b.priority ||
      (a.priority = b.priority && decide (a.id ≤ b.id))).map KnowledgeDocument.id).nodup_iff.mpr
        hfiltered
  exact hsorted.sublist (List.filter_sublist.map _)

/-- How many rows come before a key, counted among all rows. -/
def rowsBefore (rt : Runtime) (rows : List KnowledgeDocument) (tenantId kbScope query : String)
    (key : Int ×ₗ Int ×ₗ Int) : Nat :=
  rows.countP fun row =>
    row.isSelected rt tenantId kbScope && isAllowedFaqDocument rt row.title row.metadataJson &&
      decide (0 < (row.ranked rt query none).score) &&
      decide ((row.ranked rt query none).rankKey < key)

theorem countP_scoredDocuments (documents : List KnowledgeDocument) (query : String)
    (passes : RankedDocument → Bool) :
    (scoredDocuments rt documents query none).countP passes =
      documents.countP fun document =>
        decide (0 < (document.ranked rt query none).score) &&
          passes (document.ranked rt query none) := by
  induction documents with
  | nil => rfl
  | cons document rest ih =>
      unfold scoredDocuments at ih ⊢
      rw [List.filterMap_cons, List.countP_cons, ← ih]
      dsimp only
      by_cases hscore : 0 < (rankKnowledgeDocument rt document query none).score
      · rw [if_pos hscore]
        dsimp only
        rw [List.countP_cons]
        have hranked : 0 < (document.ranked rt query none).score := hscore
        rw [decide_eq_true hranked, Bool.true_and]
        rfl
      · rw [if_neg hscore]
        have hranked : ¬0 < (document.ranked rt query none).score := hscore
        rw [decide_eq_false hranked]
        simp

theorem countP_searchableRows (rows : List KnowledgeDocument) (tenantId kbScope query : String)
    (key : Int ×ₗ Int ×ₗ Int) :
    (scoredDocuments rt (searchableRows rt rows tenantId kbScope) query none).countP
        (fun item => decide (item.rankKey < key)) =
      rowsBefore rt rows tenantId kbScope query key := by
  unfold searchableRows rowsBefore
  rw [countP_scoredDocuments, List.countP_filter, (List.mergeSort_perm _ _).countP_eq,
    List.countP_filter]
  refine List.countP_congr fun row _ => ?_
  simp only [Bool.and_eq_true]
  tauto

/-- A row with more keywords and aliases in the place of the row with an id. -/
def extendRow (id : Int) (keywords aliases : List String) (row : KnowledgeDocument) :
    KnowledgeDocument :=
  if row.id = id then row.extend keywords aliases else row

theorem id_extendRow (id : Int) (keywords aliases : List String) (row : KnowledgeDocument) :
    (extendRow id keywords aliases row).id = row.id := by
  unfold extendRow
  split <;> rfl

theorem rankKey_le_of_score_le {item other : RankedDocument} (hid : item.id = other.id)
    (hpriority : item.priority = other.priority) (hscore : other.score ≤ item.score) :
    item.rankKey ≤ other.rankKey := by
  unfold RankedDocument.rankKey
  rw [hid, hpriority, Prod.Lex.le_iff]
  rcases Nat.lt_or_eq_of_le hscore with hlt | heq
  · left
    simpa using hlt
  · right
    rw [heq]
    exact ⟨rfl, le_refl _⟩

/-- No more rows come before the key of the extended row than before its old key. -/
theorem rowsBefore_extend_le (rows : List KnowledgeDocument) (tenantId kbScope query : String)
    {document : KnowledgeDocument} (keywords aliases : List String)
    (hrows : ∀ row ∈ rows, row.id = document.id → row = document) :
    rowsBefore rt (rows.map (extendRow document.id keywords aliases)) tenantId kbScope query
        ((document.extend keywords aliases).ranked rt query none).rankKey ≤
      rowsBefore rt rows tenantId kbScope query (document.ranked rt query none).rankKey := by
  unfold rowsBefore
  rw [List.countP_map]
  refine List.countP_mono_left fun row hrow hbefore => ?_
  simp only [Function.comp] at hbefore
  unfold extendRow at hbefore
  split at hbefore
  next hid =>
    obtain rfl := hrows row hrow hid
    simp at hbefore
  next hid =>
    simp only [Bool.and_eq_true, decide_eq_true_eq] at hbefore ⊢
    refine ⟨hbefore.1, hbefore.2.trans_le ?_⟩
    exact rankKey_le_of_score_le rfl rfl (score_le_extend document keywords aliases query none)

/-- A document that a search finds is still found, with no smaller score, after keywords and
aliases were added to it. -/
theorem extended_document_is_found (rt : Runtime) (rows : List KnowledgeDocument)
    (tenantId query kbScope : String) (limit : Nat) (keywords aliases : List String)
    (hids : (rows.map KnowledgeDocument.id).Nodup) (item : RankedDocument)
    (hitem : item ∈ searchKnowledgeDocuments rt rows tenantId query kbScope limit) :
    ∃ found ∈ searchKnowledgeDocuments rt (rows.map (extendRow item.id keywords aliases)) tenantId
        query kbScope limit,
      found.toKnowledgeDocument = item.toKnowledgeDocument.extend keywords aliases ∧
        item.score ≤ found.score := by
  have hfinds := searchKnowledgeDocuments_findsBest rt rows tenantId query kbScope limit
  obtain ⟨⟨hmem, hselected, hallowed⟩, hranked, hscore⟩ := hfinds.sound item hitem
  have hbetter := @score_le_extend rt item.toKnowledgeDocument keywords aliases
    (strip query) none
  rw [← hranked] at hbetter
  have hsame : ∀ row ∈ rows, row.id = item.id → row = item.toKnowledgeDocument := by
    intro row hrow hid
    exact List.inj_on_of_nodup_map hids hrow hmem hid
  have hids' : ((rows.map (extendRow item.id keywords aliases)).map KnowledgeDocument.id).Nodup := by
    rw [List.map_map]
    have hcongr : (KnowledgeDocument.id ∘ extendRow item.id keywords aliases) =
        KnowledgeDocument.id := funext fun row => id_extendRow _ _ _ row
    rwa [hcongr]
  have hrow : item.toKnowledgeDocument.extend keywords aliases ∈
      rows.map (extendRow item.id keywords aliases) := by
    refine List.mem_map.mpr ⟨item.toKnowledgeDocument, hmem, ?_⟩
    unfold extendRow
    rw [if_pos rfl]
  rw [searchKnowledgeDocuments_eq] at hitem
  have hscored := mem_of_mem_topK hitem
  have hbefore := (mem_topK_iff (nodup_rankKey (nodup_searchableRows hids tenantId kbScope) _ _)
    hscored).mp hitem
  rw [countP_searchableRows, hranked] at hbefore
  refine ⟨(item.toKnowledgeDocument.extend keywords aliases).ranked rt (strip query) none, ?_, rfl,
    hbetter⟩
  have hextended : (item.toKnowledgeDocument.extend keywords aliases).ranked rt (strip query) none ∈
      scoredDocuments rt
        (searchableRows rt (rows.map (extendRow item.id keywords aliases)) tenantId kbScope)
        (strip query) none := by
    refine mem_scoredDocuments.mpr ⟨?_, rfl, hscore.trans_le hbetter⟩
    unfold searchableRows
    rw [List.mem_filter, (List.mergeSort_perm _ _).mem_iff, List.mem_filter]
    exact ⟨⟨hrow, hselected⟩, hallowed⟩
  rw [searchKnowledgeDocuments_eq]
  refine (mem_topK_iff (nodup_rankKey (nodup_searchableRows hids' tenantId kbScope) _ _)
    hextended).mpr ?_
  rw [countP_searchableRows]
  exact (rowsBefore_extend_le rows tenantId kbScope (strip query) keywords aliases hsame).trans_lt
    hbefore

/-- A document about deposits. -/
def depositGuide : KnowledgeDocument :=
  defaultDocument 1 "deposit guide" "x" ["pix"] 10 "deposit_howto"

theorem depositGuide_is_found :
    depositGuide.ranked .plain "pix" none ∈
      searchKnowledgeDocuments .plain [depositGuide] "default" "pix" "default" 3 := by
  have hadmits : depositGuide.Searchable .plain [depositGuide] "default" "default" :=
    ⟨List.mem_singleton_self _, by decide, by decide⟩
  have hrows : (searchableRows .plain [depositGuide] "default" "default").length ≤ 1 := by
    refine (List.length_filter_le _ _).trans ?_
    rw [(List.mergeSort_perm _ _).length_eq]
    exact List.length_filter_le _ _
  have hquery : strip "pix" = "pix" := by decide
  rw [searchKnowledgeDocuments_eq, hquery]
  refine (topK_perm ?_).mem_iff.mpr (mem_scoredDocuments.mpr ⟨?_, rfl, by decide⟩)
  · have hscored := (@ids_scoredDocuments_sublist .plain
      (searchableRows .plain [depositGuide] "default" "default") "pix" none).length_le
    rw [List.length_map, List.length_map] at hscored
    omega
  · unfold searchableRows
    rw [List.mem_filter, (List.mergeSort_perm _ _).mem_iff, List.mem_filter]
    exact ⟨⟨hadmits.1, hadmits.2.1⟩, hadmits.2.2⟩

theorem extended_document_is_found_pix :
    ∃ found ∈ searchKnowledgeDocuments .plain ([depositGuide].map (extendRow 1 ["gcash"] []))
        "default" "pix" "default" 3,
      found.toKnowledgeDocument = depositGuide.extend ["gcash"] [] ∧
        (depositGuide.ranked .plain "pix" none).score ≤ found.score :=
  extended_document_is_found .plain [depositGuide] "default" "pix" "default" 3 ["gcash"] []
    (by decide) (depositGuide.ranked .plain "pix" none) depositGuide_is_found

end AiCustomerService
