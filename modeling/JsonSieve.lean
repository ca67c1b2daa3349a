import JsonSieve.Main
import JsonSieve.Proofs.Query.Spelling
import JsonSieve.Proofs.Json.RoundTrip
import JsonSieve.Proofs.Json.Document
import JsonSieve.Proofs.Json.Inverse
import JsonSieve.Proofs.Json.Lossless
import JsonSieve.Proofs.Evaluate.Keep
import JsonSieve.Proofs.Evaluate.Again
import JsonSieve.Proofs.Evaluate.Agreement
import JsonSieve.Proofs.Evaluate.Copied
import JsonSieve.Proofs.Evaluate.Retrieve
import JsonSieve.Proofs.Evaluate.Unnamed
import JsonSieve.Proofs.Evaluate.Search
import JsonSieve.Proofs.Evaluate.Widened
import JsonSieve.Proofs.Evaluate.Quoted
import JsonSieve.Proofs.Evaluate.Visits
import JsonSieve.Proofs.Evaluate.Loosened
import JsonSieve.Proofs.Command.Indented
import JsonSieve.Proofs.Evaluate.Rejection
import JsonSieve.Proofs.Evaluate.Narrowed
import JsonSieve.Proofs.Evaluate.Path
import JsonSieve.Proofs.Command.Classified
import JsonSieve.Proofs.Evaluate.Negated
import JsonSieve.Proofs.Evaluate.Threshold
import JsonSieve.Proofs.Evaluate.Alike
import JsonSieve.Proofs.Evaluate.Found
import JsonSieve.Proofs.Evaluate.Refused
import JsonSieve.Proofs.Evaluate.Bare
import JsonSieve.Proofs.Query.Outlined
import JsonSieve.Proofs.Query.Repeated
import JsonSieve.Proofs.Query.Unclosed
import JsonSieve.Proofs.Query.Trailing
import JsonSieve.Proofs.Query.Located
import JsonSieve.Proofs.Evaluate.Regrouped
import JsonSieve.Proofs.Query.Calls
import JsonSieve.Proofs.Evaluate.Entire
