import RecordFilter.Binary.Reader
import RecordFilter.Calendar.Internet
import RecordFilter.Proofs.Dependence
import RecordFilter.Proofs.Instants
import RecordFilter.Proofs.Keywords
import RecordFilter.Proofs.OperatorLaws
import RecordFilter.Proofs.Padding
import RecordFilter.Proofs.PredicateStorage
import RecordFilter.Proofs.Readability
import RecordFilter.Proofs.RequestStorage
import RecordFilter.Proofs.Rereading
import RecordFilter.Proofs.Respelling
import RecordFilter.Proofs.Separators
import RecordFilter.Proofs.SpanParts
import RecordFilter.Proofs.SpanWords
import RecordFilter.Proofs.UniformJoins
import RecordFilter.Proofs.ValueTexts
import RecordFilter.Proofs.ValuelessElements
