import Mathlib.Data.List.Sort
import PolymarketBot.Exchange.TradePage
import PolymarketBot.Flow.OnceNode
import PolymarketBot.Lib.Rows

/-! The rows of the auto-claim table: which positions get one, and what each statement does to
them. A row's id is its place in the table. -/

namespace PolymarketBot.AutoClaim
open PolymarketBot.Flow Lib

/-- In milliseconds since the epoch. -/
abbrev Instant := ℤ

inductive ClaimJobStatus where
  | pending | processing | submitted | retry | claimed | failed
  deriving DecidableEq, Repr

namespace ClaimJobStatus

/-- `status IN ('pending', 'retry')` -/
def isQueued : ClaimJobStatus → Bool
  | pending | retry => true
  | _ => false

/-- `status IN ('claimed', 'processing', 'submitted')` -/
def isKept : ClaimJobStatus → Bool
  | claimed | processing | submitted => true
  | _ => false

end ClaimJobStatus

structure AutoClaimJob where
  ownerAddress : String
  conditionId : String
  marketSlug : Option String
  status : ClaimJobStatus
  attempts : ℤ
  maxAttempts : ℤ
  nextAttemptAt : Instant
  txHash : Option String
  submittedAt : Option Instant
  updatedAt : Instant

/-! ### Addresses and condition ids -/

def isHexDigit (c : Char) : Bool :=
  c.isDigit || ('a' ≤ c && c ≤ 'f') || ('A' ≤ c && c ≤ 'F')

/-- The digits of a fixed-size hexadecimal text, in lower case; blanks between them count for
nothing. -/
@[irreducible] def parseFixedHex (digits : ℕ) (raw : String) : Option (List Char) :=
  let body := if startsWith "0x" raw then raw.toList.drop 2 else raw.toList
  let body := body.filter fun c => !(c = ' ' || c = '\r' || c = '\n' || c = '\t')
  if body.length = digits ∧ body.all isHexDigit then some (body.map Char.toLower) else none

def normalizeAddress (raw : String) : Option String :=
  (parseFixedHex 40 (trim raw)).map fun digits => "0x" ++ String.ofList digits

def parseConditionId (raw : String) : Option (List Char) := parseFixedHex 64 (trim raw)

def normalizeConditionId (raw : String) : Option String :=
  (parseConditionId raw).map fun digits => "0x" ++ String.ofList digits

def parseTxHash (raw : String) : Option (List Char) := parseFixedHex 64 (trim raw)

def eqIgnoreAsciiCase (a b : String) : Bool := lowercase a = lowercase b

/-! ### Positions -/

structure DataApiPosition where
  proxyWallet : Option String
  conditionId : Option String
  marketSlug : Option String
  slug : Option String
  currentValue : Option Value
  curPrice : Option Value
  redeemable : Option Bool
  size : Option Value
  balance : Option Value

def parseJsonF64 (value : Option Value) : Option ℚ := value.bind Exchange.parseF64Value

def normalizePositionOwnerAddress (proxyWallet : Option String) (fallbackAddress : String) :
    Option String :=
  match proxyWallet with
  | some wallet =>
    if trim wallet ≠ "" then normalizeAddress (trim wallet) else normalizeAddress fallbackAddress
  | none => normalizeAddress fallbackAddress

def positionAmount (position : DataApiPosition) : ℚ :=
  ((parseJsonF64 position.size).or (parseJsonF64 position.balance)).getD 0

def redeemablePositionValue (position : DataApiPosition) : ℚ :=
  let size := positionAmount position
  let bySize :=
    if size ≤ 0 then 0
    else match parseJsonF64 position.curPrice with
      | some curPrice => if 0 < curPrice then curPrice * size else size
      | none => size
  match parseJsonF64 position.currentValue with
  | some currentValue => if 0 < currentValue then currentValue else bySize
  | none => bySize

def meetsMinClaimValue (position : DataApiPosition) (minUsdc : ℚ) : Bool :=
  let value := redeemablePositionValue position
  let threshold := max minUsdc 0
  if value ≤ 0 then false else if threshold ≤ 0 then true else threshold ≤ value

/-! ### Statements -/

namespace AutoClaimJob
variable (job : AutoClaimJob) (now : Instant)

/-- The columns of `uq_auto_claim_owner_condition`. -/
def key : String × String := (job.ownerAddress, job.conditionId)

def fresh (ownerAddress : String) (marketSlug : Option String) (conditionId : String)
    (maxAttempts : ℤ) : AutoClaimJob :=
  { ownerAddress, conditionId, marketSlug, maxAttempts
    status := .pending, attempts := 0, nextAttemptAt := now, txHash := none, submittedAt := none
    updatedAt := now }

/-- `ON CONFLICT DO UPDATE` of `upsert_auto_claim_job`. -/
def rediscovered (excluded : AutoClaimJob) : AutoClaimJob :=
  let seen := { job with
    marketSlug := excluded.marketSlug.or job.marketSlug
    maxAttempts := max job.maxAttempts excluded.maxAttempts
    updatedAt := excluded.updatedAt }
  if job.status.isKept then seen
  else { seen with status := .pending, attempts := 0, nextAttemptAt := excluded.nextAttemptAt }

def markProcessing : AutoClaimJob := { job with status := .processing, updatedAt := now }

def markSubmitted (txHash : String) : AutoClaimJob :=
  { job with status := .submitted, txHash := some txHash, submittedAt := some now, updatedAt := now }

def markReceiptConfirmed : AutoClaimJob := { job with status := .claimed, updatedAt := now }

/-- The status that one more failed attempt leads to. -/
def afterFailure : ClaimJobStatus :=
  if job.attempts + 1 ≥ job.maxAttempts then .failed else .retry

def markRetryOrFail (retryBackoffMs : ℕ) : AutoClaimJob :=
  { job with
    attempts := job.attempts + 1
    status := job.afterFailure
    nextAttemptAt := if job.attempts + 1 ≥ job.maxAttempts then now else now + retryBackoffMs
    submittedAt := none
    updatedAt := now }

def markFailed : AutoClaimJob :=
  { job with
    attempts := job.attempts + 1, status := .failed, nextAttemptAt := now, txHash := none
    submittedAt := none, updatedAt := now }

def isStale (staleMinutes : ℤ) : Bool :=
  job.status = .processing && job.updatedAt < now - staleMinutes * 60000

def recovered : AutoClaimJob := { job with status := .retry, nextAttemptAt := now, updatedAt := now }

end AutoClaimJob

def upsertAutoClaimJob (now : Instant) (ownerAddress : String) (marketSlug : Option String)
    (conditionId : String) (maxAttempts : ℤ) (jobs : List AutoClaimJob) : List AutoClaimJob :=
  Rows.upsert AutoClaimJob.key AutoClaimJob.rediscovered
    (.fresh now ownerAddress marketSlug conditionId maxAttempts) jobs

def recoverStaleProcessing (now : Instant) (staleMinutes : ℤ) (jobs : List AutoClaimJob) :
    List AutoClaimJob :=
  jobs.map fun job => if job.isStale now staleMinutes then job.recovered now else job

/-- `ORDER BY next_attempt_at ASC, id ASC LIMIT $1` over the rows that are due. -/
def listForProcessing (now : Instant) (limit : ℕ) (jobs : List AutoClaimJob) :
    List (ℕ × AutoClaimJob) :=
  let due := (Rows.listed jobs).filter fun c => c.2.status.isQueued && c.2.nextAttemptAt ≤ now
  (due.insertionSort fun a b => a.2.nextAttemptAt ≤ b.2.nextAttemptAt).take limit

/-- `ASC NULLS FIRST` -/
def nullsFirst : Option Instant → Option Instant → Bool
  | none, _ => true
  | some _, none => false
  | some a, some b => a ≤ b

def listForReceiptCheck (limit : ℕ) (jobs : List AutoClaimJob) : List (ℕ × AutoClaimJob) :=
  let submitted := (Rows.listed jobs).filter fun c => c.2.status = .submitted
  (submitted.insertionSort fun a b => nullsFirst a.2.submittedAt b.2.submittedAt).take limit

def countSubmitted (jobs : List AutoClaimJob) : ℕ := jobs.countP (·.status = .submitted)

end PolymarketBot.AutoClaim
