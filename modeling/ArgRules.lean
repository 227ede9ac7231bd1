import ArgRules.Logging
import ArgRules.Proofs.Acceptance
import ArgRules.Proofs.Accounting
import ArgRules.Proofs.EntryPoints
import ArgRules.Proofs.Ledger
import ArgRules.Session
import ArgRules.Proofs.Directives
import ArgRules.Proofs.Strictness
import ArgRules.Proofs.Leniency
import ArgRules.Proofs.Skipping
import ArgRules.Proofs.Splitting
import ArgRules.Proofs.Idempotence
import ArgRules.Proofs.Limits
import ArgRules.Proofs.Defects
import ArgRules.Proofs.Bypass
import ArgRules.Proofs.Modes
import ArgRules.Proofs.Landing
import ArgRules.Proofs.Usability
import ArgRules.Proofs.Interchange
import ArgRules.Proofs.Easing
import ArgRules.Proofs.Reporting
import ArgRules.Proofs.Numerals
import ArgRules.Proofs.Classification
import ArgRules.Proofs.Grammar
import ArgRules.Proofs.Headers
import ArgRules.Proofs.Support
import ArgRules.Proofs.Sequences
import ArgRules.Proofs.SignedDigits
