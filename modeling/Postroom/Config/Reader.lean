import Postroom.Config.Document
import Postroom.Config.Settings
import Postroom.Count

/-!
# Reading settings

Settings as they are written in a document. What is not written has its default, what is not known is
passed over, and one value of the wrong kind or out of range spoils the whole.

* `Config.ofDocument?`, `MetricsConfig.ofDocument?`: all settings.
* `Backoff.ofDocument?` and the like: one group.
-/

namespace Postroom

open Document

/-- A code written as a name: decimal digits without sign, and without zeros in front. -/
def codeOfName? (name : String) : Option Nat :=
  let digits := name.toList
  if digits.isEmpty || 5 < digits.length || (digits.head? = some '0' && digits.length ≠ 1) then none
  else (IpAddress.number? 10 5 digits).filter (· < twoTo 16)

def WorkerConfig.ofDocument? (d : Document) : Option WorkerConfig := do
  let f ← d.fields? 4
  some {
    maxWorkers := ← f.read? 0 "max_workers" none fun d => (d.natural? 64).map some
    tickInterval := ← f.read? 1 "tick_interval_ms" 100 (natural? 64)
    maxDispatchPerTick := ← f.read? 2 "max_dispatch_per_tick" none (optional? (natural? 64))
    shutdownTimeoutSeconds := ← f.read? 3 "shutdown_timeout_secs" 30 (natural? 64) }

def HoldConfig.ofDocument? (d : Document) : Option HoldConfig := do
  let f ← d.fields? 3
  some {
    maxHold := ← f.read? 0 "max_hold_ms" none (optional? (natural? 64))
    smoothingPercent := ← f.read? 1 "smoothing_percent" 20 (natural? 32)
    smoothingTicks := ← f.read? 2 "smoothing_ticks" 5 (natural? 32) }

def Backoff.ofDocument? (d : Document) : Option Backoff := do
  let f ← d.fields? 4
  some {
    maxRetries := ← f.read? 0 "max_retries" 3 (natural? 32)
    initialDelay := ← f.read? 1 "initial_delay_ms" 1000 (natural? 64)
    multiplier := ← f.read? 2 "multiplier" 2.0 real?
    maxDelay := ← f.read? 3 "max_delay_ms" 300000 (natural? 64) }

def RetryQuota.ofDocument? (d : Document) : Option RetryQuota := do
  let f ← d.fields? 4
  some {
    capPercent := ← f.read? 0 "cap_percent" 30 (natural? 32)
    agedPercent := ← f.read? 1 "aging_relax_percent" 70 (natural? 32)
    agingThreshold := ← f.read? 2 "aging_threshold_ms" 30000 (natural? 64)
    freshReserve := ← f.read? 3 "fresh_reserve" 1 (natural? 64) }

def WaitConfig.ofDocument? (d : Document) : Option WaitConfig := do
  let f ← d.fields? 4
  some {
    timeout := ← f.read? 0 "timeout_ms" 30000 (natural? 64)
    requeueBase := ← f.read? 1 "requeue_base_ms" 200 (natural? 64)
    requeueJitter := ← f.read? 2 "requeue_jitter_ms" 300 (natural? 64)
    timeoutCode := ← f.read? 3 "timeout_code" 451 (natural? 16) }

def AddressConfig.ofDocument? (d : Document) : Option AddressConfig := do
  let f ← d.fields? 5
  let initial : AddressConfig := {}
  some {
    sources := ← f.read? 0 "source_addresses" initial.sources
      (list? fun d => d.text?.bind IpAddress.ofText?)
    sessionsPerAddress := ← f.read? 1 "sessions_per_address" 2 (natural? 64)
    domainSessions := ← f.read? 2 "domain_sessions" .empty
      fun d => (d.table? some (natural? 64)).map Table.mk
    cooldownSeconds := ← f.read? 3 "cooldown_secs" 60 (natural? 64)
    triggers := ← f.read? 4 "cooldown_triggers" initial.triggers
      fun d => (d.table? codeOfName? (natural? 32)).map Table.mk }

def SlotConfig.ofDocument? (d : Document) : Option SlotConfig := do
  let f ← d.fields? 3
  some {
    common := ← f.read? 0 "max_in_flight" 0 (natural? 64)
    realtime := ← f.read? 1 "realtime_max_in_flight" 0 (natural? 64)
    bulk := ← f.read? 2 "bulk_max_in_flight" 0 (natural? 64) }

def RecipientPolicy.ofDocument? (d : Document) : Option RecipientPolicy := do
  let f ← d.fields? 3
  let initial : RecipientPolicy := {}
  some {
    excludedCodes := ← f.read? 0 "retry_excluded_codes" initial.excludedCodes (list? (natural? 16))
    sessionFailureCode := ← f.read? 1 "session_failure_code" 421 (natural? 16)
    invalidDomainCode := ← f.read? 2 "invalid_domain_code" 550 (natural? 16) }

def Config.ofDocument? (d : Document) : Option Config := do
  let f ← d.fields? 8
  some {
    workers := ← f.read? 0 "workers" {} WorkerConfig.ofDocument?
    hold := ← f.read? 1 "hold" {} HoldConfig.ofDocument?
    retry := ← f.read? 2 "retry" {} Backoff.ofDocument?
    quota := ← f.read? 3 "retry_admission" {} RetryQuota.ofDocument?
    wait := ← f.read? 4 "resource_wait" {} WaitConfig.ofDocument?
    addresses := ← f.read? 5 "addresses" {} AddressConfig.ofDocument?
    slots := ← f.read? 6 "slots" {} SlotConfig.ofDocument?
    recipients := ← f.read? 7 "recipients" {} RecipientPolicy.ofDocument? }

def MetricsConfig.ofDocument? (d : Document) : Option MetricsConfig := do
  let f ← d.fields? 6
  let initial : MetricsConfig := {}
  some {
    enabled := ← f.read? 0 "enabled" true flag?
    endpoint := ← f.read? 1 "endpoint" initial.endpoint text?
    exportIntervalSeconds := ← f.read? 2 "export_interval_secs" 15 (natural? 64)
    exportTimeoutSeconds := ← f.read? 3 "export_timeout_secs" 10 (natural? 64)
    domainCardinality := ← f.read? 4 "max_domain_cardinality" 1000 (natural? 64)
    priorityDomains := ← f.read? 5 "high_priority_domains" [] (list? text?) }

end Postroom
