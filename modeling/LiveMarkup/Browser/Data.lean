/-!
# The manager of data

Text of the browser runtime, line by line: filters, pages and rows.
-/

set_option autoImplicit false

namespace LiveMarkup.Browser

/-- The lines of this part of the runtime. -/
def dataLines : List String := [
  "/* Strata runtime: filterable data manager. */",
  "(function (global) \x7b",
  "  \"use strict\";",
  "",
  "  const Strata = (global.Strata = global.Strata || \x7b\x7d);",
  "  if (Strata.DataManager) \x7b",
  "    return;",
  "  \x7d",
  "",
  "  const PREFIX = \"[strata]\";",
  "  const SEARCH_FIELD = \"__search\";",
  "  const ROW_SELECTOR = \"[data-row]\";",
  "  /* Attributes the generator uses for its own bookkeeping on rows. */",
  "  const ROW_ATTRIBUTES = [\"row\", \"index\", \"record\"];",
  "",
  "  function emptyValue(type) \x7b",
  "    switch (type) \x7b",
  "      case \"multiselect\":",
  "        return [];",
  "      case \"boolean\":",
  "        return null;",
  "      case \"range\":",
  "        return \x7b min: null, max: null \x7d;",
  "      default:",
  "        return \"\";",
  "    \x7d",
  "  \x7d",
  "",
  "  function fromInput(type, raw) \x7b",
  "    switch (type) \x7b",
  "      case \"text\":",
  "      case \"select\":",
  "        return Strata.text(raw);",
  "      case \"multiselect\":",
  "        if (Array.isArray(raw)) \x7b",
  "          return raw.map(Strata.text).filter((s) => s !== \"\");",
  "        \x7d",
  "        return raw === null || raw === undefined || Strata.text(raw) === \"\" ? [] : [Strata.text(raw)];",
  "      case \"boolean\":",
  "        return Strata.bool(raw);",
  "      case \"range\":",
  "        if (Array.isArray(raw)) \x7b",
  "          return \x7b min: Strata.number(raw[0]), max: Strata.number(raw[1]) \x7d;",
  "        \x7d",
  "        if (raw && typeof raw === \"object\") \x7b",
  "          return \x7b min: Strata.number(raw.min), max: Strata.number(raw.max) \x7d;",
  "        \x7d",
  "        return \x7b min: null, max: null \x7d;",
  "      default:",
  "        return null;",
  "    \x7d",
  "  \x7d",
  "",
  "  function isActive(type, value) \x7b",
  "    switch (type) \x7b",
  "      case \"text\":",
  "      case \"select\":",
  "        return value.trim() !== \"\";",
  "      case \"multiselect\":",
  "        return value.length > 0;",
  "      case \"boolean\":",
  "        return value !== null;",
  "      case \"range\":",
  "        return value.min !== null || value.max !== null;",
  "      default:",
  "        return false;",
  "    \x7d",
  "  \x7d",
  "",
  "  function matches(type, value, candidate) \x7b",
  "    switch (type) \x7b",
  "      case \"text\":",
  "        return Strata.text(candidate).toLowerCase().includes(value.trim().toLowerCase());",
  "      case \"select\":",
  "        return Array.isArray(candidate)",
  "          ? candidate.some((v) => Strata.text(v) === value)",
  "          : Strata.text(candidate) === value;",
  "      case \"multiselect\":",
  "        return Array.isArray(candidate)",
  "          ? candidate.some((v) => value.includes(Strata.text(v)))",
  "          : value.includes(Strata.text(candidate));",
  "      case \"boolean\":",
  "        return Strata.bool(candidate) === value;",
  "      case \"range\": \x7b",
  "        const n = Strata.number(candidate);",
  "        if (n === null) \x7b",
  "          return false;",
  "        \x7d",
  "        return (value.min === null || n >= value.min) && (value.max === null || n <= value.max);",
  "      \x7d",
  "      default:",
  "        return true;",
  "    \x7d",
  "  \x7d",
  "",
  "  function fill(template, item) \x7b",
  "    return template.replace(/\\\x7b\\\x7b\\s*([^\x7d]+?)\\s*\\\x7d\\\x7d/g, (_, key) => escapeHtml(Strata.text(item[key])));",
  "  \x7d",
  "",
  "  function parseRecord(row) \x7b",
  "    if (!row.hasAttribute(\"data-record\")) \x7b",
  "      return \x7b\x7d;",
  "    \x7d",
  "    try \x7b",
  "      const record = JSON.parse(row.getAttribute(\"data-record\"));",
  "      return record && typeof record === \"object\" ? record : \x7b\x7d;",
  "    \x7d catch (err) \x7b",
  "      console.warn(PREFIX, \"unreadable row record\", err);",
  "      return \x7b\x7d;",
  "    \x7d",
  "  \x7d",
  "",
  "  /* Field values of a pre-rendered row: data-<field> attributes first, then the data-record blob. */",
  "  function readRow(row, schema) \x7b",
  "    const record = parseRecord(row);",
  "    schema.forEach((field) => \x7b",
  "      const name = String(field.name).toLowerCase();",
  "      if (ROW_ATTRIBUTES.includes(name)) \x7b",
  "        return;",
  "      \x7d",
  "      const attr = row.getAttribute(\"data-\" + name);",
  "      if (attr === null) \x7b",
  "        return;",
  "      \x7d",
  "      record[field.name] =",
  "        field.type === \"multiselect\"",
  "          ? attr",
  "              .split(\",\")",
  "              .map((v) => v.trim())",
  "              .filter((v) => v !== \"\")",
  "          : attr;",
  "    \x7d);",
  "    return record;",
  "  \x7d",
  "",
  "  function escapeHtml(s) \x7b",
  "    return s",
  "      .replace(/&/g, \"&amp;\")",
  "      .replace(/</g, \"&lt;\")",
  "      .replace(/>/g, \"&gt;\")",
  "      .replace(/\"/g, \"&quot;\")",
  "      .replace(/'/g, \"&#39;\");",
  "  \x7d",
  "",
  "  class DataManager \x7b",
  "    constructor(controller) \x7b",
  "      const config = controller.config.data || \x7b\x7d;",
  "      const options = config.options || \x7b\x7d;",
  "      const root = controller.root;",
  "",
  "      this.controller = controller;",
  "      this.schema = config.schema || [];",
  "      this.options = options;",
  "      this.server = !!controller.config.serverMode;",
  "      this.items = config.items || [];",
  "      this.total = typeof config.total === \"number\" ? config.total : this.items.length;",
  "",
  "      const paginate =",
  "        options.enablePagination || (controller.config.optimizations || []).includes(\"pagination\");",
  "      this.perPage = paginate ? Math.max(1, options.itemsPerPage || 20) : 0;",
  "      this.page = 1;",
  "",
  "      this.filters = \x7b\x7d;",
  "      this.schema.forEach((field) => \x7b",
  "        this.filters[field.name] = \x7b type: field.type, value: emptyValue(field.type), active: false \x7d;",
  "      \x7d);",
  "      this.searchable = this.schema.filter((f) => f.searchable !== false).map((f) => f.name);",
  "      this.search = \"\";",
  "",
  "      this.resultsEl = root.querySelector(\"[data-strata-results]\");",
  "      this.summaryEl = root.querySelector(\"[data-strata-summary]\");",
  "      this.pagerEl = root.querySelector(\"[data-strata-pagination]\");",
  "      this.counterEl = options.counterSelector ? document.querySelector(options.counterSelector) : null;",
  "",
  "      this.rows = [];",
  "      this.records = [];",
  "      if (this.server) \x7b",
  "        const custom = options.rowSelector && options.rowSelector !== ROW_SELECTOR;",
  "        const selector = custom ? options.rowSelector + \", \" + ROW_SELECTOR : ROW_SELECTOR;",
  "        this.rows = Array.from(root.querySelectorAll(selector));",
  "        this.records = this.rows.map((row) => readRow(row, this.schema));",
  "        this.total = this.rows.length;",
  "      \x7d",
  "",
  "      this.matched = this.source().map((_, i) => i);",
  "      this.bind();",
  "      this.render();",
  "    \x7d",
  "",
  "    source() \x7b",
  "      return this.server ? this.records : this.items;",
  "    \x7d",
  "",
  "    bind() \x7b",
  "      const root = this.controller.root;",
  "      const handler = (event) => \x7b",
  "        const el = event.target.closest(\"[data-filter-field]\");",
  "        if (el && root.contains(el)) \x7b",
  "          this.onControl(el);",
  "        \x7d",
  "      \x7d;",
  "      this.controller.listen(root, \"input\", handler);",
  "      this.controller.listen(root, \"change\", handler);",
  "      if (this.pagerEl) \x7b",
  "        this.controller.listen(this.pagerEl, \"click\", (event) => \x7b",
  "          const button = event.target.closest(\"[data-page]\");",
  "          if (button) \x7b",
  "            event.preventDefault();",
  "            this.setPage(Number(button.dataset.page));",
  "          \x7d",
  "        \x7d);",
  "      \x7d",
  "    \x7d",
  "",
  "    onControl(el) \x7b",
  "      const field = el.dataset.filterField;",
  "      if (el.dataset.filterType === \"range\") \x7b",
  "        const label = el.closest(\"label\") || el.parentElement;",
  "        const bound = (which) => \x7b",
  "          const input = label.querySelector('[data-filter-bound=\"' + which + '\"]');",
  "          return input ? input.value : null;",
  "        \x7d;",
  "        this.update(field, \x7b min: bound(\"min\"), max: bound(\"max\") \x7d);",
  "        return;",
  "      \x7d",
  "      this.update(field, Strata.readValue(el));",
  "    \x7d",
  "",
  "    set(field, raw) \x7b",
  "      if (field === SEARCH_FIELD) \x7b",
  "        this.search = Strata.text(raw).trim().toLowerCase();",
  "        return true;",
  "      \x7d",
  "      const entry = this.filters[field];",
  "      if (!entry) \x7b",
  "        console.warn(PREFIX, \"filter update for unknown field ignored:\", field);",
  "        return false;",
  "      \x7d",
  "      entry.value = fromInput(entry.type, raw);",
  "      entry.active = isActive(entry.type, entry.value);",
  "      return true;",
  "    \x7d",
  "",
  "    async update(field, raw) \x7b",
  "      this.set(field, raw);",
  "      return this.refresh(\x7b field: field, value: raw \x7d);",
  "    \x7d",
  "",
  "    /* Applies several updates with a single refresh. */",
  "    async apply(updates) \x7b",
  "      Object.keys(updates).forEach((field) => this.set(field, updates[field]));",
  "      return this.refresh(\x7b fields: Object.keys(updates) \x7d);",
  "    \x7d",
  "",
  "    async clear() \x7b",
  "      Object.keys(this.filters).forEach((field) => \x7b",
  "        const entry = this.filters[field];",
  "        entry.value = emptyValue(entry.type);",
  "        entry.active = false;",
  "      \x7d);",
  "      this.search = \"\";",
  "      this.controller.root.querySelectorAll(\"[data-filter-field]\").forEach((el) => \x7b",
  "        if (el.multiple) \x7b",
  "          Array.from(el.options).forEach((o) => (o.selected = false));",
  "        \x7d else \x7b",
  "          el.value = \"\";",
  "        \x7d",
  "      \x7d);",
  "      return this.refresh(\x7b cleared: true \x7d);",
  "    \x7d",
  "",
  "    accepts(record) \x7b",
  "      const fieldsMatch = Object.keys(this.filters).every((field) => \x7b",
  "        const entry = this.filters[field];",
  "        return !entry.active || matches(entry.type, entry.value, record[field]);",
  "      \x7d);",
  "      if (!fieldsMatch) \x7b",
  "        return false;",
  "      \x7d",
  "      if (this.search === \"\") \x7b",
  "        return true;",
  "      \x7d",
  "      return this.searchable.some((field) => Strata.text(record[field]).toLowerCase().includes(this.search));",
  "    \x7d",
  "",
  "    async refresh(context) \x7b",
  "      this.matched = [];",
  "      this.source().forEach((record, i) => \x7b",
  "        if (this.accepts(record)) \x7b",
  "          this.matched.push(i);",
  "        \x7d",
  "      \x7d);",
  "      this.page = 1;",
  "      this.render();",
  "",
  "      const detail = \x7b visible: this.matched.length, total: this.total \x7d;",
  "      this.controller.emit(\"filter\", detail);",
  "      await this.controller.runHook(\"afterFilter\", Object.assign(\x7b\x7d, context, detail));",
  "      return detail.visible;",
  "    \x7d",
  "",
  "    pageCount() \x7b",
  "      if (!this.perPage) \x7b",
  "        return 1;",
  "      \x7d",
  "      return Math.max(1, Math.ceil(this.matched.length / this.perPage));",
  "    \x7d",
  "",
  "    setPage(page) \x7b",
  "      const next = Math.min(Math.max(1, Math.floor(page) || 1), this.pageCount());",
  "      if (next === this.page) \x7b",
  "        return;",
  "      \x7d",
  "      this.page = next;",
  "      this.render();",
  "      this.controller.emit(\"page-change\", \x7b page: next, pages: this.pageCount() \x7d);",
  "    \x7d",
  "",
  "    pageSlice() \x7b",
  "      if (!this.perPage) \x7b",
  "        return this.matched;",
  "      \x7d",
  "      const start = (this.page - 1) * this.perPage;",
  "      return this.matched.slice(start, start + this.perPage);",
  "    \x7d",
  "",
  "    render() \x7b",
  "      if (this.server) \x7b",
  "        const shown = new Set(this.matched);",
  "        this.rows.forEach((row, i) => \x7b",
  "          row.style.display = shown.has(i) ? \"\" : \"none\";",
  "        \x7d);",
  "      \x7d else if (this.resultsEl) \x7b",
  "        this.resultsEl.innerHTML = this.pageSlice()",
  "          .map((i) => this.renderItem(this.items[i], i))",
  "          .join(\"\");",
  "      \x7d",
  "",
  "      const text = \"Showing \" + this.matched.length + \" of \" + this.total;",
  "      if (this.summaryEl) \x7b",
  "        this.summaryEl.textContent = text;",
  "      \x7d",
  "      if (this.counterEl) \x7b",
  "        this.counterEl.textContent = String(this.matched.length);",
  "      \x7d",
  "      this.renderPager();",
  "    \x7d",
  "",
  "    renderItem(item, index) \x7b",
  "      const body = this.options.itemTemplate",
  "        ? fill(this.options.itemTemplate, item)",
  "        : this.schema",
  "            .map((f) => '<span data-field=\"' + escapeHtml(f.name) + '\">' + escapeHtml(Strata.text(item[f.name])) + \"</span>\")",
  "            .join(\"\");",
  "      const cls = this.controller.cls(\"row\");",
  "      return (",
  "        '<div data-row data-index=\"' + index + '\"' + (cls ? ' class=\"' + escapeHtml(cls) + '\"' : \"\") + \">\" + body + \"</div>\"",
  "      );",
  "    \x7d",
  "",
  "    renderPager() \x7b",
  "      if (!this.pagerEl || this.server) \x7b",
  "        return;",
  "      \x7d",
  "      const pages = this.pageCount();",
  "      let html = \"\";",
  "      for (let p = 1; p <= pages; p += 1) \x7b",
  "        const current = p === this.page ? ' aria-current=\"page\"' : \"\";",
  "        html += '<button type=\"button\" data-page=\"' + p + '\"' + current + \">\" + p + \"</button>\";",
  "      \x7d",
  "      this.pagerEl.innerHTML = pages > 1 ? html : \"\";",
  "    \x7d",
  "  \x7d",
  "",
  "  Strata.DataManager = DataManager;",
  "\x7d)(window);",
  ""]

end LiveMarkup.Browser
