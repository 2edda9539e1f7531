import PageShell.Main
import PageShell.Proofs.Agreement
import PageShell.Proofs.Effects
import PageShell.Proofs.Exporting
import PageShell.Proofs.History
import PageShell.Proofs.LiveRules
import PageShell.Proofs.Markers
import PageShell.Proofs.Preview
import PageShell.Proofs.Reports
import PageShell.Proofs.Saving
import PageShell.Proofs.Upkeep
import PageShell.Proofs.Usable
import PageShell.Proofs.ListEdits
import PageShell.Proofs.ListFiles
import PageShell.Proofs.DottedLines
import PageShell.Proofs.Tags
import PageShell.Proofs.SuccessiveMatches
