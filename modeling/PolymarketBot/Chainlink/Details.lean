import PolymarketBot.Chainlink.Prices
import PolymarketBot.Lib.Fields

/-! The details of a refusal, and how they are read back from its text. -/

namespace PolymarketBot.Chainlink
open Lib Fields Text

def parseNamedI64Field (text field : String) : Option ℤ := readField field.toList text.toList

def parseChainlinkStalePriceDetails (errorText : String) : Option ChainlinkStalePriceDetails :=
  if "stale price for ".toList <+: errorText.toList then do
    let providerAgeMs ← parseNamedI64Field errorText "provider_age_ms"
    let receiveAgeMs ← parseNamedI64Field errorText "receive_age_ms"
    let providerTimestampMs ← parseNamedI64Field errorText "provider_timestamp_ms"
    let receivedAtMs ← parseNamedI64Field errorText "received_at_ms"
    return { providerAgeMs, receiveAgeMs, providerTimestampMs, receivedAtMs }
  else none

def parseChainlinkNearTimestampRejectionDetails (errorText : String) :
    Option ChainlinkNearTimestampRejectionDetails :=
  if (afterFirst "closest past tick is".toList errorText.toList).isSome then do
    let gapMs ← parseNamedI64Field errorText "gap_ms"
    let providerAgeMs ← parseNamedI64Field errorText "provider_age_ms"
    let candidateTimestampMs ← parseNamedI64Field errorText "candidate_timestamp_ms"
    let candidateReceivedAtMs ← parseNamedI64Field errorText "candidate_received_at_ms"
    return { gapMs, providerAgeMs, candidateTimestampMs, candidateReceivedAtMs }
  else none

/-! ### Texts -/

/-- What the details of a refusal look like in its text. -/
def detailsText (lead : List Char) (first : String) (value : ℤ) (rest : List (String × ℤ))
    (tail : List Char) : List Char :=
  fieldsText ((lead, first.toList, value) ::
    rest.map fun field => (", ".toList, field.1.toList, field.2)) (')' :: tail)

/-- A name that can be told from others. -/
def Apart (name : String) (others : List String) : Prop :=
  ∀ other ∈ others,
    '=' ∉ other.toList ∧ ¬ name.toList <:+ other.toList ∧ ¬ other.toList <:+ name.toList

instance (name : String) (others : List String) : Decidable (Apart name others) :=
  inferInstanceAs (Decidable (∀ other ∈ others,
    '=' ∉ other.toList ∧ ¬ name.toList <:+ other.toList ∧ ¬ other.toList <:+ name.toList))

theorem ends_rest (rest : List (String × ℤ)) (tail : List Char) :
    Ends (fieldsText (rest.map fun field => (", ".toList, field.1.toList, field.2))
      (')' :: tail)) := by
  refine ends_fieldsText (fun lead hlead => ?_) fun c hc => (Option.some.inj hc) ▸ rfl
  rw [List.map_map] at hlead
  obtain ⟨field, -, rfl⟩ := List.mem_map.mp hlead
  have hcomma : ", ".toList ≠ [] := by decide
  exact ⟨hcomma, fun c hc => (Option.some.inj hc) ▸ rfl⟩

theorem not_mark_joined {text : List Char} (h : '=' ∉ text) : '=' ∉ ", ".toList ++ text := by
  have hcomma : '=' ∉ ", ".toList := by decide
  simp only [List.mem_append, hcomma, h, or_self, not_false_eq_true]

section Read
variable {lead : List Char} {first : String} {firstValue : ℤ} (hlead : '=' ∉ lead ++ first.toList)
include hlead

theorem first_read (hfits : fitsI64 firstValue) (rest : List (String × ℤ)) (tail : List Char) :
    readField first.toList (detailsText lead first firstValue rest tail) = some firstValue := by
  have hmark : '=' ∉ first.toList := fun h => hlead (List.mem_append_right lead h)
  exact readField_here hmark hlead (List.suffix_append ..) hfits (ends_rest rest tail)

theorem later_read {name : String} {value : ℤ} (before after : List (String × ℤ))
    (hmark : '=' ∉ name.toList) (hname : (name.toList ++ ['=']).any isNumberChar = false)
    (hapart : Apart name (first :: before.map Prod.fst)) (hfits : fitsI64 value)
    (tail : List Char) :
    readField name.toList
        (detailsText lead first firstValue (before ++ (name, value) :: after) tail) = some value := by
  have hname : ∀ c ∈ name.toList ++ ['='], isNumberChar c = false := fun c hc =>
    Bool.eq_false_of_not_eq_true (List.any_eq_false.mp hname c hc)
  obtain ⟨hfirst, hbefore⟩ := List.forall_mem_cons.mp hapart
  have hall : ∀ text ∈ ((lead, first.toList, firstValue) :: before.map fun field =>
      (", ".toList, field.1.toList, field.2)).map fun field => field.1 ++ field.2.1,
      '=' ∉ text ∧ ¬ name.toList <:+ text := by
    intro text htext
    cases List.mem_cons.mp htext with
    | inl heq =>
      rw [heq]
      exact ⟨hlead, not_suffix_append hfirst.2.1 hfirst.2.2 lead⟩
    | inr hrest =>
      rw [List.map_map] at hrest
      obtain ⟨field, hfield, rfl⟩ := List.mem_map.mp hrest
      obtain ⟨hother, hapart⟩ := hbefore field.1 (List.mem_map_of_mem hfield)
      exact ⟨not_mark_joined hother, not_suffix_append hapart.1 hapart.2 _⟩
  unfold detailsText
  rw [List.map_append, List.map_cons, ← List.cons_append]
  exact readField_fields hmark hname hall (not_mark_joined hmark) (List.suffix_append ..) hfits
    (ends_rest after tail)

end Read

/-! ### Refusals -/

theorem marked_toList {text lead name : String} (h : text = lead ++ name ++ "=") :
    (toString text).toList = lead.toList ++ (name.toList ++ ['=']) := by
  rw [h, ← List.append_assoc]
  simp only [toString, String.toList_append]
  rfl

theorem not_mark_of_number (z : ℤ) : '=' ∉ (toString z).toList :=
  Text.not_mem_toString_int (by decide) (by decide) z

/-- What stands before the details of a stale price. -/
def staleLead (symbol : String) (ageSecs : ℤ) : List Char :=
  "stale price for ".toList ++ (symbol.toList ++ (": ".toList ++
    ((toString ageSecs).toList ++ ("s old ".toList ++ "(".toList))))

theorem stalePriceText_fields (symbol : String) (details : ChainlinkStalePriceDetails)
    (tail : String) :
    (stalePriceText symbol details ++ tail).toList =
      detailsText (staleLead symbol (details.providerAgeMs / 1000))
        "provider_age_ms" details.providerAgeMs
        [("receive_age_ms", details.receiveAgeMs),
          ("provider_timestamp_ms", details.providerTimestampMs),
          ("received_at_ms", details.receivedAtMs)] tail.toList := by
  unfold stalePriceText detailsText staleLead
  simp only [fieldsText, List.map_cons, List.map_nil, String.toList_append, List.append_assoc]
  rw [@marked_toList "(provider_age_ms=" "(" "provider_age_ms" rfl,
    @marked_toList ", receive_age_ms=" ", " "receive_age_ms" rfl,
    @marked_toList "provider_timestamp_ms=" "" "provider_timestamp_ms" rfl,
    @marked_toList ", received_at_ms=" ", " "received_at_ms" rfl]
  simp only [List.append_assoc, List.singleton_append, toString]
  rfl

/-- What stands before the details of a tick that is too old. -/
def pastLead (symbol : String) (gapMs : ℤ) : List Char :=
  "no cached price near timestamp for ".toList ++ (symbol.toList ++
    (": ".toList ++ ("closest past tick is".toList ++ (" ".toList ++ ((toString gapMs).toList ++
      ("ms away ".toList ++ "(".toList))))))

theorem pastTooOldText_fields (symbol : String) (details : ChainlinkNearTimestampRejectionDetails)
    (tail : String) :
    (pastTooOldText symbol details ++ tail).toList =
      detailsText (pastLead symbol details.gapMs) "gap_ms" details.gapMs
        [("provider_age_ms", details.providerAgeMs),
          ("candidate_timestamp_ms", details.candidateTimestampMs),
          ("candidate_received_at_ms", details.candidateReceivedAtMs)] tail.toList := by
  unfold pastTooOldText detailsText pastLead
  simp only [fieldsText, List.map_cons, List.map_nil, String.toList_append, List.append_assoc]
  rw [@marked_toList "(gap_ms=" "(" "gap_ms" rfl,
    @marked_toList ", provider_age_ms=" ", " "provider_age_ms" rfl,
    @marked_toList "candidate_timestamp_ms=" "" "candidate_timestamp_ms" rfl,
    @marked_toList "candidate_received_at_ms=" "" "candidate_received_at_ms" rfl]
  simp only [List.append_assoc, List.singleton_append, toString]
  rfl

/-- The numbers of a refusal are those of the service, which are 64 bits wide. -/
structure ChainlinkStalePriceDetails.Fits (details : ChainlinkStalePriceDetails) : Prop where
  providerAgeMs : fitsI64 details.providerAgeMs
  receiveAgeMs : fitsI64 details.receiveAgeMs
  providerTimestampMs : fitsI64 details.providerTimestampMs
  receivedAtMs : fitsI64 details.receivedAtMs

structure ChainlinkNearTimestampRejectionDetails.Fits
    (details : ChainlinkNearTimestampRejectionDetails) : Prop where
  gapMs : fitsI64 details.gapMs
  providerAgeMs : fitsI64 details.providerAgeMs
  candidateTimestampMs : fitsI64 details.candidateTimestampMs
  candidateReceivedAtMs : fitsI64 details.candidateReceivedAtMs

section Symbol
variable {symbol : String} (hsymbol : '=' ∉ symbol.toList)
include hsymbol

theorem stale_details_read {details : ChainlinkStalePriceDetails} (h : details.Fits)
    (tail : String) :
    parseChainlinkStalePriceDetails (stalePriceText symbol details ++ tail) = some details := by
  have hlead : '=' ∉ staleLead symbol (details.providerAgeMs / 1000) ++ "provider_age_ms".toList :=
    List.not_mem_append (List.not_mem_append (by decide) (List.not_mem_append hsymbol
      (List.not_mem_append (by decide) (List.not_mem_append (not_mark_of_number _) (by decide)))))
      (by decide)
  have hstart : "stale price for ".toList <+: (stalePriceText symbol details ++ tail).toList := by
    rw [stalePriceText_fields]
    unfold detailsText fieldsText staleLead
    rw [List.append_assoc, List.append_assoc]
    exact List.prefix_append ..
  unfold parseChainlinkStalePriceDetails parseNamedI64Field
  rw [if_pos hstart, stalePriceText_fields, first_read hlead h.providerAgeMs]
  generalize htext : detailsText (staleLead symbol (details.providerAgeMs / 1000)) _ _ _ _ = text
  have hreceive : readField "receive_age_ms".toList text = some details.receiveAgeMs := by
    rw [← htext]
    exact later_read hlead [] _ (by decide) (by decide) (by decide) h.receiveAgeMs _
  have hprovider : readField "provider_timestamp_ms".toList text =
      some details.providerTimestampMs := by
    rw [← htext]
    exact later_read hlead [("receive_age_ms", details.receiveAgeMs)] _ (by decide) (by decide)
      (by simp only [List.map_cons, List.map_nil]; decide) h.providerTimestampMs _
  have hreceived : readField "received_at_ms".toList text = some details.receivedAtMs := by
    rw [← htext]
    exact later_read hlead [("receive_age_ms", details.receiveAgeMs),
      ("provider_timestamp_ms", details.providerTimestampMs)] _ (by decide) (by decide)
      (by simp only [List.map_cons, List.map_nil]; decide) h.receivedAtMs _
  rw [hreceive, hprovider, hreceived]
  rfl

theorem past_details_read {details : ChainlinkNearTimestampRejectionDetails} (h : details.Fits)
    (tail : String) :
    parseChainlinkNearTimestampRejectionDetails (pastTooOldText symbol details ++ tail) =
      some details := by
  have hlead : '=' ∉ pastLead symbol details.gapMs ++ "gap_ms".toList :=
    List.not_mem_append (List.not_mem_append (by decide) (List.not_mem_append hsymbol
      (List.not_mem_append (by decide) (List.not_mem_append (by decide) (List.not_mem_append
        (by decide) (List.not_mem_append (not_mark_of_number _) (by decide))))))) (by decide)
  have hkind : (afterFirst "closest past tick is".toList
      (pastTooOldText symbol details ++ tail).toList).isSome := by
    refine afterFirst_isSome_of_infix ?_
    rw [pastTooOldText_fields]
    unfold detailsText fieldsText
    rw [List.append_assoc]
    have hinfix : "closest past tick is".toList <:+: pastLead symbol details.gapMs := by
      unfold pastLead
      rw [← List.append_assoc, ← List.append_assoc, ← List.append_assoc]
      exact List.infix_append ..
    exact hinfix.trans (List.prefix_append ..).isInfix
  unfold parseChainlinkNearTimestampRejectionDetails parseNamedI64Field
  rw [if_pos hkind, pastTooOldText_fields, first_read hlead h.gapMs]
  generalize htext : detailsText (pastLead symbol details.gapMs) _ _ _ _ = text
  have hprovider : readField "provider_age_ms".toList text = some details.providerAgeMs := by
    rw [← htext]
    exact later_read hlead [] _ (by decide) (by decide) (by decide) h.providerAgeMs _
  have hcandidate : readField "candidate_timestamp_ms".toList text =
      some details.candidateTimestampMs := by
    rw [← htext]
    exact later_read hlead [("provider_age_ms", details.providerAgeMs)] _ (by decide) (by decide)
      (by simp only [List.map_cons, List.map_nil]; decide) h.candidateTimestampMs _
  have hreceived : readField "candidate_received_at_ms".toList text =
      some details.candidateReceivedAtMs := by
    rw [← htext]
    exact later_read hlead [("provider_age_ms", details.providerAgeMs),
      ("candidate_timestamp_ms", details.candidateTimestampMs)] _ (by decide) (by decide)
      (by simp only [List.map_cons, List.map_nil]; decide) h.candidateReceivedAtMs _
  rw [hprovider, hcandidate, hreceived]
  rfl

end Symbol

theorem not_mark_of_asset {asset symbol : String} (h : assetToSymbol asset = some symbol) :
    '=' ∉ symbol.toList := by
  have hknown : symbol ∈ supportedRtdsSymbols := by
    unfold assetToSymbol at h
    split at h <;> cases h <;> decide
  have hall : ∀ known ∈ supportedRtdsSymbols, '=' ∉ known.toList := by decide
  exact hall symbol hknown

/-- The details that a refused price tells of. -/
def ChainlinkError.staleDetails : ChainlinkError → Option ChainlinkStalePriceDetails
  | .stalePrice _ details _ => some details
  | _ => none

theorem parse_other_kind {text lead : String} {rest : List Char}
    (htext : text.toList = lead.toList ++ rest) (hsome : lead.toList ≠ [])
    (hlead : lead.toList.head? ≠ some 's') : parseChainlinkStalePriceDetails text = none := by
  refine if_neg fun hprefix => ?_
  obtain ⟨more, hmore⟩ := hprefix
  rw [htext] at hmore
  have hhead := congrArg List.head? hmore
  rw [List.head?_append_of_ne_nil _ hsome] at hhead
  exact hlead hhead.symm

theorem withLastError_append (base : String) (lastError : Option String) :
    ∃ more, withLastError base lastError = base ++ more := by
  cases lastError with
  | none => exact ⟨"", String.append_empty.symm⟩
  | some text => exact ⟨_, String.append_assoc⟩

theorem stale_refusal_read {service : ChainlinkPriceService} {asset : String} {nowMs : ℤ}
    {error : ChainlinkError} (h : (service.getPrice asset nowMs).1 = .error error)
    (hfits : ∀ details, error.staleDetails = some details → details.Fits) (tail : String) :
    parseChainlinkStalePriceDetails (error.message ++ tail) = error.staleDetails := by
  unfold ChainlinkPriceService.getPrice at h
  cases hsymbol : assetToSymbol asset with
  | none =>
    simp only [hsymbol] at h
    obtain rfl := Except.error.inj h
    have htext : ((ChainlinkError.unsupportedAsset asset).message ++ tail).toList =
        "unsupported asset: ".toList ++ (asset.toList ++ tail.toList) := by
      unfold ChainlinkError.message
      simp only [String.toList_append, List.append_assoc]
      rfl
    exact parse_other_kind htext (by decide) (by decide)
  | some symbol =>
    simp only [hsymbol] at h
    cases hcached : (service.state symbol).bind fun entry =>
        entry.latest.map fun cached => (entry, cached) with
    | none =>
      simp only [hcached] at h
      obtain rfl := Except.error.inj h
      have htext : ∃ rest, ((ChainlinkError.noCachedPrice symbol service.lastError).message ++
          tail).toList = "no cached price for ".toList ++ rest := by
        obtain ⟨more, hmore⟩ := withLastError_append s!"no cached price for {symbol}"
          service.lastError
        change ∃ rest, (withLastError s!"no cached price for {symbol}" service.lastError ++
          tail).toList = _
        rw [hmore]
        simp only [String.toList_append, List.append_assoc]
        exact ⟨_, rfl⟩
      obtain ⟨rest, hrest⟩ := htext
      exact parse_other_kind hrest (by decide) (by decide)
    | some found =>
      simp only [hcached] at h
      split_ifs at h with hstale
      obtain rfl := Except.error.inj h
      obtain ⟨more, hmore⟩ := withLastError_append (stalePriceText symbol _) service.lastError
      unfold ChainlinkError.message
      simp only
      rw [hmore, String.append_assoc]
      exact stale_details_read (not_mark_of_asset hsymbol) (hfits _ rfl) _

theorem past_refusal_symbol {service : ChainlinkPriceService} {asset symbol : String}
    {targetMs maxPastToleranceMs maxFutureToleranceMs nowMs : ℤ}
    {details : ChainlinkNearTimestampRejectionDetails}
    (h : service.getPriceNearTimestampWithTolerance asset targetMs maxPastToleranceMs
      maxFutureToleranceMs nowMs = .error (.pastTooOld symbol details)) :
    '=' ∉ symbol.toList := by
  unfold ChainlinkPriceService.getPriceNearTimestampWithTolerance at h
  cases hsymbol : assetToSymbol asset with
  | none =>
    simp only [hsymbol] at h
    cases Except.error.inj h
  | some known =>
    have hknown := not_mark_of_asset hsymbol
    simp only [hsymbol] at h
    split at h
    · cases Except.error.inj h
    · split at h
      · split_ifs at h
        cases Except.error.inj h
        exact hknown
      · cases Except.error.inj h
      · split_ifs at h
        cases Except.error.inj h

/-- A refused price tells its details in its text: whatever is appended to that, they are read back,
and none are from a refusal of another kind. A tick that is too old for an instant is told in the
same way. -/
theorem refusal_read_back (service : ChainlinkPriceService) (asset : String) (nowMs : ℤ)
    (tail : String) :
    (∀ error, (service.getPrice asset nowMs).1 = .error error →
      (∀ details, error.staleDetails = some details → details.Fits) →
      parseChainlinkStalePriceDetails (error.message ++ tail) = error.staleDetails) ∧
    ∀ targetMs maxPastToleranceMs maxFutureToleranceMs symbol details,
      service.getPriceNearTimestampWithTolerance asset targetMs maxPastToleranceMs
        maxFutureToleranceMs nowMs = .error (.pastTooOld symbol details) →
      details.Fits →
      parseChainlinkNearTimestampRejectionDetails
        ((ChainlinkError.pastTooOld symbol details).message ++ tail) = some details := by
  constructor
  · intro error h hfits
    exact stale_refusal_read h hfits tail
  · intro targetMs maxPastToleranceMs maxFutureToleranceMs symbol details h hfits
    exact past_details_read (past_refusal_symbol h) hfits tail

theorem refusal_read_back_after_one_price :
    parseChainlinkStalePriceDetails ((ChainlinkError.stalePrice "btc/usd"
      ⟨99000, 98990, 1000, 1010⟩ none).message ++ "; waited_ms=250") =
        some ⟨99000, 98990, 1000, 1010⟩ ∧
    parseChainlinkNearTimestampRejectionDetails ((ChainlinkError.pastTooOld "btc/usd"
      ⟨4000, 99000, 1000, 1010⟩).message ++ "; waited_ms=250") =
        some ⟨4000, 99000, 1000, 1010⟩ := by
  have hread := refusal_read_back
    (([.price "btc/usd" 70000 1000 1010] : List FeedEvent).foldl ChainlinkPriceService.step {})
    "btc" 100000 "; waited_ms=250"
  constructor
  · refine hread.1 (.stalePrice "btc/usd" ⟨99000, 98990, 1000, 1010⟩ none) (by decide +kernel) ?_
    intro details hdetails
    obtain rfl := Option.some.inj hdetails
    exact ⟨by decide, by decide, by decide, by decide⟩
  · exact hread.2 5000 2000 2000 "btc/usd" ⟨4000, 99000, 1000, 1010⟩ (by decide +kernel)
      ⟨by decide, by decide, by decide, by decide⟩

end PolymarketBot.Chainlink
