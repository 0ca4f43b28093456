import LookupAggregator.MusicBrainz.Display
import LookupAggregator.Normalize.Words

/-! # The two renderings of a credit

`_artist_credit` joins the names of the artists, `_release_credit_line` the names they are credited by. A
release of the artist passes the hint made of its own credit exactly when the former stand in a row in the
latter: `credit_passes_iff`; an artist who is credited by another name loses its releases:
`credited_otherwise_is_dropped`. -/

namespace LookupAggregator.MusicBrainz

open Lib Py Normalize Providers

/-- A credit as it is sent, with the name the artist is credited by and the artist's own. -/
inductive NamedCredit : Json → String × String → Prop
  | credit {d artist : Items} {credited own : String} (hcredited : lookup d "name" = .str credited)
      (hartist : d.lookup "artist" = some (.obj artist)) (hown : lookup artist "name" = .str own) :
      NamedCredit (.obj d) (credited, own)

/-- The folded words of names that are joined by slashes; empty names are left out. -/
def creditWords (cf : CaseFolding) (names : List String) : List (List Char) :=
  ([['/']].intercalate ((names.filter (· ≠ "")).map fun name => words isSpace name.toList)).map
    fun w => w.flatMap cf.fold

section Credits
variable {cf : CaseFolding} {isPrintable : Char → Bool} {credits : List Json} {names : List (String × String)}

/-! ### Words of a credit -/

/-- A slash between spaces is a word of its own. -/
theorem words_intercalate_slash (ls : List (List Char)) :
    words isSpace ([' ', '/', ' '].intercalate ls) = [['/']].intercalate (ls.map (words isSpace)) := by
  induction ls with
  | nil => rfl
  | cons l ls ih =>
    cases ls with
    | nil => simp
    | cons l' ls =>
      have hspace : isSpace ' ' = true := by decide
      have hslash : words isSpace ['/'] = [['/']] := by decide
      have hslashed (rest : List Char) :
          words isSpace (l ++ [' ', '/', ' '] ++ rest) = words isSpace l ++ [['/']] ++ words isSpace rest := by
        rw [List.append_assoc, List.append_assoc, ← hslash, ← words_append_cons hspace,
          ← words_append_cons hspace]
        rfl
      rw [List.intercalate_cons_cons, hslashed, ih]
      simp [List.intercalate_cons_cons]

/-- The words of joined names. -/
theorem words_joinParts (parts : List String) : words isSpace (joinParts parts).toList =
    [['/']].intercalate (parts.map fun part => words isSpace part.toList) := by
  have hjoin : (joinParts parts).toList = [' ', '/', ' '].intercalate (parts.map String.toList) := by
    rw [joinParts, String.toList_intercalate]
    rfl
  rw [hjoin, words_intercalate_slash, List.map_map]
  rfl

theorem foldedWords_joinParts (parts : List String) :
    foldedWords cf (joinParts (parts.filter (· ≠ ""))) = creditWords cf parts := by
  rw [foldedWords, words_joinParts, creditWords]

/-! ### Both renderings -/

/-- `_artist_credit` joins the artists' own names. -/
theorem artistCredit_named (cf : CaseFolding) (isPrintable : Char → Bool)
    (h : List.Forall₂ NamedCredit credits names) :
    ∃ hint, artistCredit isPrintable (.arr credits) = .ok hint ∧
      foldedWords cf (hint.getD "") = creditWords cf (names.map Prod.snd) := by
  have hsent : List.Forall₂ SentCredit credits (names.map Prod.snd) := by
    rw [List.forall₂_map_right_iff]
    refine h.imp fun c name hc => ?_
    obtain ⟨-, hartist, hown⟩ := hc
    exact .credit hartist hown
  refine ⟨creditedArtist (names.map Prod.snd), artistCredit_eq hsent, ?_⟩
  unfold creditedArtist
  split_ifs with hnil
  · rw [hnil]
    rfl
  · rw [Option.getD_some, ← foldedWords_joinParts, foldedWords, words_collapseWs]
    rfl

/-- The names that `_release_credit_line` joins. -/
theorem flatMap_namesOf_named (h : List.Forall₂ NamedCredit credits names) :
    credits.flatMap (namesOf isPrintable) = (names.map Prod.fst).filter (· ≠ "") := by
  induction h with
  | nil => rfl
  | cons hc _ ih =>
    cases hc with
    | @credit d artist credited own hcredited hartist hown =>
      rw [List.flatMap_cons, ih, namesOf, hcredited, List.map_cons]
      dsimp only
      by_cases hempty : credited = ""
      · subst hempty
        rfl
      · have htruthy : (Json.str credited).truthy = true := by simpa [Json.truthy] using hempty
        rw [if_pos htruthy, List.filter_cons_of_pos (by simpa using hempty)]
        rfl

/-- `_release_credit_line` joins the names they are credited by. -/
theorem releaseCreditLine_named (h : List.Forall₂ NamedCredit credits names) {rel : Items}
    (hrel : lookup rel "artist-credit" = .arr credits) :
    creditLine isPrintable rel = joinParts ((names.map Prod.fst).filter (· ≠ "")) ∧
      releaseCreditLine isPrintable rel = .ok (creditLine isPrintable rel) := by
  obtain ⟨hwalkable, hwalked⟩ := Json.walked_arr credits
  refine ⟨by rw [creditLine, hrel, hwalked, flatMap_namesOf_named h], ?_⟩
  exact (computes_releaseCreditLine rel).eq_ok (by rw [hrel]; exact hwalkable)

/-- **An official release passes a hint exactly when the hint is in its credit line.** -/
theorem candidate_eq_iff {rel : Items} (hwalk : (lookup rel "artist-credit").Walkable)
    (helig : isEligible isPrintable rel = true) (hint : Option String) :
    candidate cf isPrintable (normCompare cf hint) (.obj rel) = .ok [rel] ↔
      (normCompare cf hint).toList <:+: (normCompare cf (some (creditLine isPrintable rel))).toList := by
  have hok : candidate cf isPrintable (normCompare cf hint) (.obj rel) =
      .ok (candidatesOf cf isPrintable (normCompare cf hint) (.obj rel)) :=
    (computes_candidate _ _).eq_ok fun rel' heq _ => by cases heq; exact hwalk
  rw [hok, candidatesOf_obj, helig, Bool.true_and]
  by_cases hin : (normCompare cf hint).toList <:+: (normCompare cf (some (creditLine isPrintable rel))).toList
  · rw [decide_eq_true hin, Bool.or_true, if_pos rfl]
    exact iff_of_true rfl hin
  · -- an empty hint would be in every credit
    have hne : normCompare cf hint ≠ "" := fun hempty => hin (by rw [hempty]; exact List.nil_infix)
    rw [decide_eq_false hin, decide_eq_false hne, Bool.or_false, if_neg Bool.false_ne_true]
    exact iff_of_false (fun h => by cases h) hin

end Credits

/-- **Exactly when the two renderings of a credit agree.** For every list of credits, each with the name an
artist is credited by and the artist's own: the hint made of them is in the credit line of a release with the
same credits, and lets an official one of no various artists pass, if and only if the folded words of the
artists' own names stand in a row among those of the names they are credited by. -/
theorem credit_passes_iff (cf : CaseFolding) (isPrintable : Char → Bool) {credits : List Json}
    {names : List (String × String)} (h : List.Forall₂ NamedCredit credits names) :
    ∃ hint, artistCredit isPrintable (.arr credits) = .ok hint ∧
      ∀ rel, lookup rel "artist-credit" = .arr credits →
        ∃ line, releaseCreditLine isPrintable rel = .ok line ∧
          ((normCompare cf hint).toList <:+: (normCompare cf (some line)).toList ↔
            InRow (creditWords cf (names.map Prod.snd)) (creditWords cf (names.map Prod.fst))) ∧
          (isText "Official" (lookup rel "status") = true → ¬ "Various Artists".toList <:+: line.toList →
            (candidate cf isPrintable (normCompare cf hint) (.obj rel) = .ok [rel] ↔
              InRow (creditWords cf (names.map Prod.snd)) (creditWords cf (names.map Prod.fst)))) := by
  obtain ⟨hint, hhint, hwords⟩ := artistCredit_named cf isPrintable h
  refine ⟨hint, hhint, fun rel hrel => ?_⟩
  obtain ⟨hline, hok⟩ := releaseCreditLine_named h hrel
  have hcontained : (normCompare cf hint).toList <:+:
        (normCompare cf (some (creditLine isPrintable rel))).toList ↔
      InRow (creditWords cf (names.map Prod.snd)) (creditWords cf (names.map Prod.fst)) := by
    rw [normCompare_infix_iff, hwords, Option.getD_some, hline, foldedWords_joinParts]
  refine ⟨creditLine isPrintable rel, hok, hcontained, fun hofficial hvarious => ?_⟩
  have helig : isEligible isPrintable rel = true := by
    rw [isEligible, hofficial, decide_eq_false hvarious]
    rfl
  have hwalk : (lookup rel "artist-credit").Walkable := by
    rw [hrel]
    exact (Json.walked_arr credits).1
  rw [candidate_eq_iff hwalk helig hint, hcontained]

/-- The credit of one artist. -/
def oneCredit (credited own : String) : List Json :=
  [.obj [("name", .str credited), ("artist", .obj [("name", .str own)])]]

/-- An official release with a credit. -/
def officialRelease (credits : List Json) : Items :=
  [("status", .str "Official"), ("artist-credit", .arr credits)]

/-- White space around a name makes no difference. -/
theorem credit_passes_iff_spaced : ∃ hint,
    artistCredit (fun _ => true) (.arr (oneCredit " ABBA" "ABBA")) = .ok hint ∧
      candidate .id (fun _ => true) (normCompare .id hint) (.obj (officialRelease (oneCredit " ABBA" "ABBA"))) =
        .ok [officialRelease (oneCredit " ABBA" "ABBA")] := by
  have hnamed : List.Forall₂ NamedCredit (oneCredit " ABBA" "ABBA") [(" ABBA", "ABBA")] :=
    .cons (.credit rfl rfl rfl) .nil
  obtain ⟨hint, hhint, hpasses⟩ := credit_passes_iff .id (fun _ => true) hnamed
  obtain ⟨line, hline, -, hcandidate⟩ := hpasses (officialRelease (oneCredit " ABBA" "ABBA")) rfl
  obtain rfl : " ABBA" = line := Except.ok.inj hline
  have hrow : InRow (creditWords .id ["ABBA"]) (creditWords .id [" ABBA"]) :=
    .single [] [] (List.infix_refl ['A', 'B', 'B', 'A'])
  exact ⟨hint, hhint, (hcandidate rfl (by decide)).mpr hrow⟩

/-- **An artist credited by another name loses its releases**: the hint is the one name, the credit line the
other. -/
theorem credited_otherwise_is_dropped :
    artistCredit (fun _ => true) (.arr (oneCredit "Prince" "The Artist")) = .ok (some "The Artist") ∧
      releaseCreditLine (fun _ => true) (officialRelease (oneCredit "Prince" "The Artist")) = .ok "Prince" ∧
      ¬ ∀ cf isPrintable credits names hint rel line, List.Forall₂ NamedCredit credits names →
        artistCredit isPrintable (.arr credits) = .ok hint → lookup rel "artist-credit" = .arr credits →
        isText "Official" (lookup rel "status") = true → releaseCreditLine isPrintable rel = .ok line →
        ¬ "Various Artists".toList <:+: line.toList →
          candidate cf isPrintable (normCompare cf hint) (.obj rel) = .ok [rel] := by
  refine ⟨rfl, rfl, fun hall => ?_⟩
  have hpasses := hall .id (fun _ => true) (oneCredit "Prince" "The Artist") [("Prince", "The Artist")]
    (some "The Artist") (officialRelease (oneCredit "Prince" "The Artist")) "Prince"
    (.cons (.credit rfl rfl rfl) .nil) rfl rfl rfl rfl (by decide)
  have hdropped : candidate .id (fun _ => true) (normCompare .id (some "The Artist"))
      (.obj (officialRelease (oneCredit "Prince" "The Artist"))) = .ok [] := rfl
  rw [hdropped] at hpasses
  cases hpasses

end LookupAggregator.MusicBrainz
