import AimAnalysis.Config.Sections
import AimAnalysis.Json.Record

/-!
# Configuration documents

A section is read from a JSON record whose fields all have defaults: what is missing keeps its default,
but what is there must have the right form. Spans are written as numbers of seconds. Reading does not
check ranges; that is the section's own check.
-/

namespace AimAnalysis

open Json

/-- Reads a number of seconds. -/
def Span.ofTree? (t : Tree) : Option Span := t.float?.bind Span.ofSeconds?

/-- Reads the sensitivity section. -/
def EstimatorConfig.ofTree? (t : Tree) : Option EstimatorConfig := do
  let f ← t.fields? ["capacity", "significance", "max_delta_degrees"]
  let base : EstimatorConfig := {}
  let capacity ← f.orDefault 0 Tree.natural? base.capacity
  let significance ← f.orDefault 1 Tree.natural? base.significance
  let maxDelta ← f.orDefault 2 Tree.float? base.maxDelta
  return { capacity, significance, maxDelta }

/-- Reads the reconciliation section. -/
def ReconcilerConfig.ofTree? (t : Tree) : Option ReconcilerConfig := do
  let f ← t.fields? ["coarse_duplicate_threshold", "fine_duplicate_threshold", "cancel_duplicates",
    "ignore_duplicate_rotation"]
  let base : ReconcilerConfig := {}
  let coarseThreshold ← f.orDefault 0 Tree.float? base.coarseThreshold
  let fineThreshold ← f.orDefault 1 Tree.float? base.fineThreshold
  let cancelDuplicates ← f.orDefault 2 Tree.bool? base.cancelDuplicates
  let ignoreDuplicateRotation ← f.orDefault 3 Tree.bool? base.ignoreDuplicateRotation
  return { coarseThreshold, fineThreshold, cancelDuplicates, ignoreDuplicateRotation }

/-- Reads the window section. -/
def WindowConfig.ofTree? (t : Tree) : Option WindowConfig := do
  let f ← t.fields? ["sequence", "step"]
  let base : WindowConfig := {}
  let sequence ← f.orDefault 0 Tree.natural? base.sequence
  let step ← f.orDefault 1 Tree.natural? base.step
  return { sequence, step }

/-- Reads the evidence section. -/
def EvidenceConfig.ofTree? (t : Tree) : Option (EvidenceConfig Float) := do
  let f ← t.fields? ["flag", "reset_on_flag", "multiplier", "decrease", "suspicious"]
  let base : EvidenceConfig Float := .standard
  let flag ← f.orDefault 0 Tree.float? base.flag
  let resetOnFlag ← f.orDefault 1 Tree.float? base.resetOnFlag
  let multiplier ← f.orDefault 2 Tree.float? base.multiplier
  let decrease ← f.orDefault 3 Tree.float? base.decrease
  let suspicious ← f.orDefault 4 Tree.float? base.suspicious
  return { flag, resetOnFlag, multiplier, decrease, suspicious }

/-- Reads the damage section. -/
def DamageConfig.ofTree? (t : Tree) : Option (DamageConfig Float) := do
  let f ← t.fields? ["enabled", "threshold", "multiplier"]
  let base : DamageConfig Float := .standard
  let enabled ← f.orDefault 0 Tree.bool? base.enabled
  let threshold ← f.orDefault 1 Tree.float? base.threshold
  let multiplier ← f.orDefault 2 Tree.float? base.multiplier
  return { enabled, threshold, multiplier }

/-- Reads the delays of an endpoint. -/
def BackoffConfig.ofTree? (t : Tree) : Option BackoffConfig := do
  let f ← t.fields? ["initial_delay", "max_delay", "multiplier"]
  let base : BackoffConfig := {}
  let initialDelay ← f.orDefault 0 Span.ofTree? base.initialDelay
  let maxDelay ← f.orDefault 1 Span.ofTree? base.maxDelay
  let multiplier ← f.orDefault 2 Tree.float? base.multiplier
  return { initialDelay, maxDelay, multiplier }

/-- Reads the endpoint section. -/
def TransportConfig.ofTree? (t : Tree) : Option TransportConfig := do
  let f ← t.fields? ["enabled", "url", "api_key", "connect_timeout", "request_timeout", "backoff"]
  let base : TransportConfig := {}
  let enabled ← f.orDefault 0 Tree.bool? base.enabled
  let url ← f.orDefault 1 Tree.string? base.url
  let apiKey ← f.orDefault 2 Tree.string? base.apiKey
  let connectTimeout ← f.orDefault 3 Span.ofTree? base.connectTimeout
  let requestTimeout ← f.orDefault 4 Span.ofTree? base.requestTimeout
  let backoff ← f.orDefault 5 BackoffConfig.ofTree? base.backoff
  return { enabled, url, apiKey, connectTimeout, requestTimeout, backoff }

/-- Reads the classification bundle. -/
def ClassifierConfig.ofTree? (t : Tree) : Option (ClassifierConfig Float) := do
  let f ← t.fields? ["window", "evidence", "damage", "region_filter_enabled"]
  let base : ClassifierConfig Float := .standard
  let window ← f.orDefault 0 WindowConfig.ofTree? base.window
  let evidence ← f.orDefault 1 EvidenceConfig.ofTree? base.evidence
  let damage ← f.orDefault 2 DamageConfig.ofTree? base.damage
  let regionFilterEnabled ← f.orDefault 3 Tree.bool? base.regionFilterEnabled
  return { window, evidence, damage, regionFilterEnabled }

/-- Reads the complete configuration; the classification sections stand directly in the document. -/
def PipelineConfig.ofTree? (t : Tree) : Option PipelineConfig := do
  let f ← t.fields? ["estimator", "reconciler", "window", "evidence", "damage", "transport",
    "region_filter_enabled"]
  let base : PipelineConfig := {}
  let estimator ← f.orDefault 0 EstimatorConfig.ofTree? base.estimator
  let reconciler ← f.orDefault 1 ReconcilerConfig.ofTree? base.reconciler
  let window ← f.orDefault 2 WindowConfig.ofTree? base.classifier.window
  let evidence ← f.orDefault 3 EvidenceConfig.ofTree? base.classifier.evidence
  let damage ← f.orDefault 4 DamageConfig.ofTree? base.classifier.damage
  let transport ← f.orDefault 5 TransportConfig.ofTree? base.transport
  let regionFilterEnabled ← f.orDefault 6 Tree.bool? base.classifier.regionFilterEnabled
  return { estimator, reconciler, transport
           classifier := { window, evidence, damage, regionFilterEnabled } }

/-- Reads the complete configuration from a text. -/
def PipelineConfig.ofText? (text : String) : Option PipelineConfig :=
  (Tree.ofText? text).bind PipelineConfig.ofTree?

end AimAnalysis
